import Mailroom.Proofs.Invariant
import Mailroom.Proofs.Relay.Letter

/-!
A dialogue as a list of turns. Nothing that is said depends on which calls fail: a dialogue takes
its turns in order and stops at the first call that fails or at a fault of its own. What each stage
says is thus a plain list, and the turns of the whole dialogue are those of its stages.
-/

namespace Mailroom.Relay

open Mailroom.Action

/-- A call to make, or the fault that ends the dialogue in its place. -/
abbrev Turn := Except Fault Call

/-- The calls that are made when the turns are taken from a place in the dialogue on, and how that
ends. -/
def Server.play (server : Server) (place : Nat) : List Turn → List Call × Except Fault Unit
  | [] => ([], .ok ())
  | .error e :: _ => ([], .error e)
  | .ok c :: rest =>
      if server.fails place c.name then ([c], .error (.sendFailed c.name))
      else (c :: (server.play (place + 1) rest).1, (server.play (place + 1) rest).2)

variable {server : Server} {s : Session} {place : Nat} {c : Call} {turns first second : List Turn}

@[simp] theorem Server.play_nil (server : Server) (place : Nat) :
    server.play place [] = ([], .ok ()) := rfl

@[simp] theorem Server.play_error (server : Server) (place : Nat) (e : Fault) (rest : List Turn) :
    server.play place (.error e :: rest) = ([], .error e) := rfl

theorem Server.play_of_fails (h : server.fails place c.name = true) (rest : List Turn) :
    server.play place (.ok c :: rest) = ([c], .error (.sendFailed c.name)) := by
  simp [play, h]

theorem Server.play_of_returns (h : server.fails place c.name = false) (rest : List Turn) :
    server.play place (.ok c :: rest) =
      (c :: (server.play (place + 1) rest).1, (server.play (place + 1) rest).2) := by
  simp [play, h]

theorem Server.play_append_of_ok (h : (server.play place first).2 = .ok ()) :
    server.play place (first ++ second) =
      ((server.play place first).1 ++ (server.play (place + first.length) second).1,
        (server.play (place + first.length) second).2) := by
  induction first generalizing place with
  | nil => rfl
  | cons turn rest ih =>
      cases turn with
      | error e => cases h
      | ok c =>
          cases hfails : server.fails place c.name with
          | true =>
              rw [play_of_fails hfails] at h
              cases h
          | false =>
              rw [play_of_returns hfails] at h ⊢
              rw [List.cons_append, play_of_returns hfails, ih h]
              simp [Nat.add_assoc, Nat.add_comm 1]

theorem Server.play_append_of_error {e : Fault} (h : (server.play place first).2 = .error e) :
    server.play place (first ++ second) = server.play place first := by
  induction first generalizing place with
  | nil => cases h
  | cons turn rest ih =>
      cases turn with
      | error e => rfl
      | ok c =>
          cases hfails : server.fails place c.name with
          | true => rw [List.cons_append, play_of_fails hfails, play_of_fails hfails]
          | false =>
              rw [play_of_returns hfails] at h
              rw [List.cons_append, play_of_returns hfails, play_of_returns hfails, ih h]

theorem Server.length_play_of_ok (h : (server.play place turns).2 = .ok ()) :
    (server.play place turns).1.length = turns.length := by
  induction turns generalizing place with
  | nil => rfl
  | cons turn rest ih =>
      cases turn with
      | error e => cases h
      | ok c =>
          cases hfails : server.fails place c.name with
          | true =>
              rw [play_of_fails hfails] at h
              cases h
          | false =>
              rw [play_of_returns hfails] at h ⊢
              simp [ih h]

/-! ### Actions that take turns -/

/-- From the dialogue so far, the action takes the turns, and gives the value once they are
through. -/
structure Plays {α : Type} (server : Server) (x : Action Dialogue α) (d : Dialogue)
    (turns : List Turn) (a : α) : Prop where
  calls : (x.run d).state.calls = d.calls ++ (server.play d.calls.length turns).1
  result : (x.run d).result = (server.play d.calls.length turns).2.map fun _ => a

section Combining

variable {α β : Type} {d : Dialogue} {x : Action Dialogue α} {f : α → Action Dialogue β} {a : α}
  {b : β}

theorem plays_pure (server : Server) (a : α) (d : Dialogue) : Plays server (pure a) d [] a :=
  ⟨by simp [Server.play], rfl⟩

theorem plays_fail (server : Server) (e : Fault) (d : Dialogue) (rest : List Turn) (a : α) :
    Plays server (fail e) d (.error e :: rest) a :=
  ⟨by simp [Server.play], rfl⟩

theorem plays_call (server : Server) (c : Call) (d : Dialogue) :
    Plays server (server.call c) d [.ok c] () := by
  constructor <;> rw [Server.run_call] <;>
    cases h : server.fails d.calls.length c.name <;> simp [Server.play, h, Except.map]

theorem plays_note (server : Server) (entry : Entry) (d : Dialogue) :
    Plays server (note entry) d [] () :=
  ⟨by simp [Server.play], rfl⟩

theorem plays_turn (server : Server) (turn : Turn) (d : Dialogue) :
    Plays server (ofExcept turn >>= server.call) d [turn] () := by
  cases turn with
  | error e => exact plays_fail server e d [] ()
  | ok c => exact plays_call server c d

theorem Plays.bind (hx : Plays server x d first a)
    (hf : (x.run d).result = .ok a → Plays server (f a) (x.run d).state second b) :
    Plays server (x >>= f) d (first ++ second) b := by
  cases h : (server.play d.calls.length first).2 with
  | error e =>
      have hresult : (x.run d).result = .error e := by rw [hx.result, h]; rfl
      constructor
      · rw [run_bind_error hresult, Server.play_append_of_error h, hx.calls]
      · rw [run_bind_error hresult, Server.play_append_of_error h, h]
        rfl
  | ok u =>
      have hresult : (x.run d).result = .ok a := by rw [hx.result, h]; rfl
      -- The second action starts where the turns of the first one end.
      have hlength : (x.run d).state.calls.length = d.calls.length + first.length := by
        rw [hx.calls, List.length_append, Server.length_play_of_ok h]
      have hnext := hf hresult
      constructor
      · rw [run_bind_ok hresult, Server.play_append_of_ok h, hnext.calls, hx.calls,
          List.append_assoc, ← hx.calls, hlength]
      · rw [run_bind_ok hresult, Server.play_append_of_ok h, hnext.result, hlength]

theorem Plays.seq (hx : Plays server x d first a)
    (hf : ∀ d, Plays server (f a) d second b) : Plays server (x >>= f) d (first ++ second) b :=
  hx.bind fun _ => hf _

theorem Plays.andReturn (hx : Plays server x d turns a) (b : β) :
    Plays server (x >>= fun _ => pure b) d turns b := by
  rw [← List.append_nil turns]
  exact hx.seq fun d' => plays_pure server b d'

end Combining

/-! ### The turns of each stage -/

/-- The reply to a greeting, by the number of greetings before it. -/
def Server.replyTo (server : Server) (greeted : Nat) : Reply :=
  (server.greetings[greeted]?).getD (server.greetings.getLast?.getD server.helo)

def connection (s : Session) : Turn := do
  if !s.host.truth then .error (.relay .noHost)
  let port ← s.port?
  let connectionTimeout ← s.number? .connectionTimeout
  let timeout ← seconds connectionTimeout
  return .connect (s.flag .ssl) s.host (port.getD Session.smtpPort) timeout
    (if s.flag .ssl then some (tlsContext s) else none)

def patience (s : Session) : Turn := do
  let timeout ← s.number? .timeout
  return .setTimeout (← seconds timeout)

def opening (server : Server) (s : Session) : List Turn :=
  [connection s] ++
    ((if server.hasSocket then [patience s] else []) ++ [.ok (.setDebugLevel (s.flag .debug))])

def introduction (server : Server) (greeted : Nat) : List Turn :=
  [.ok .ehlo] ++
    if (server.replyTo greeted).isPositive then []
    else [.ok .helo] ++
      if server.helo.isPositive then []
      else [.error (.relay (.greetingRefused server.helo.code server.helo.text))]

def encryption (server : Server) (s : Session) : List Turn :=
  if s.flag .ssl then []
  else [.ok (.hasExtension "starttls")] ++
    if server.extensions.contains "starttls" then
      if s.flag .startTls then [.ok (.startTls (tlsContext s)), .ok .ehlo] else []
    else if s.flag .startTlsRequired then [.error (.relay .encryptionMissing)] else []

/-- The call that names an account, whose password is known to be there. -/
def login (account : Value) : Turn := do
  match ← account.elements with
  | [user, password] => return .login user password
  | parts => .error (.kind (.extraArguments "login" 3 3 (parts.length + 1)))

def naming (server : Server) (s : Session) : List Turn :=
  if s.account.isNothing then []
  else if server.esmtp then
    match passwordOf s.account with
    | .error e => [.error e]
    | .ok password => if password.isNothing then [] else [login s.account]
  else [.error (.relay .accountUnusable)]

def leaving (server : Server) : List Turn :=
  [.ok .quit] ++ if server.breaksOnQuit then [.ok .close] else []

def delivery (server : Server) (l : Letter) : List Turn :=
  [.ok (.sendMail l.sender l.recipients l.text)] ++ leaving server

section Stages

variable (server : Server) (s : Session) (d : Dialogue)

theorem plays_greet : Plays server server.greet d [.ok .ehlo] (server.replyTo d.greeted) := by
  let asked : Dialogue := ((server.call .ehlo).run d).state
  have hgreeted : asked.greeted = d.greeted := by
    simp only [asked, Server.run_call]
  have hreply : Plays server (state >>= fun d =>
      Action.update (fun d : Dialogue => { d with greeted := d.greeted + 1 }) >>= fun _ =>
        pure (server.replyTo d.greeted)) asked [] (server.replyTo d.greeted) := by
    rw [← hgreeted]
    exact ⟨by simp [run_bind], rfl⟩
  exact (plays_call server .ehlo d).bind fun _ => hreply

theorem plays_introduce : Plays server (introduce server) d (introduction server d.greeted) () := by
  refine (plays_greet server d).seq fun d' => ?_
  cases (server.replyTo d.greeted).isPositive with
  | true => exact plays_pure server () d'
  | false =>
      have hold : Plays server server.greetOld d' [.ok .helo] server.helo :=
        (plays_call server .helo d').andReturn server.helo
      refine hold.seq fun d' => ?_
      cases server.helo.isPositive with
      | true => exact plays_pure server () d'
      | false => exact plays_fail server _ d' [] ()

theorem plays_encrypt : Plays server (encrypt server s) d (encryption server s) () := by
  unfold encrypt encryption
  cases s.flag .ssl with
  | true => exact plays_pure server () d
  | false =>
      have hoffers : Plays server (server.offers "starttls") d [.ok (.hasExtension "starttls")]
          (server.extensions.contains "starttls") :=
        (plays_call server _ d).andReturn _
      refine hoffers.seq fun d' => ?_
      cases server.extensions.contains "starttls" with
      | false =>
          cases s.flag .startTlsRequired with
          | true => exact plays_fail server _ d' [] ()
          | false => exact plays_pure server () d'
      | true =>
          cases s.flag .startTls with
          | false => exact plays_pure server () d'
          | true =>
              refine (plays_call server (.startTls (tlsContext s)) d').seq fun d' => ?_
              exact (plays_greet server d').andReturn ()

theorem authenticate_eq : authenticate server s =
    if s.account.isNothing then pure ()
    else if server.esmtp then
      ofExcept (passwordOf s.account) >>= fun password =>
        if password.isNothing then pure () else ofExcept (login s.account) >>= server.call
    else fail (.relay .accountUnusable) := by
  unfold authenticate
  cases s.account.isNothing with
  | true => rfl
  | false =>
      cases server.esmtp with
      | false => rfl
      | true =>
          simp only [Bool.not_false, if_true, Bool.false_eq_true, if_false]
          refine congrArg _ (funext fun password => ?_)
          cases password.isNothing with
          | true => rfl
          | false =>
              simp only [Bool.not_false, if_true, Bool.false_eq_true, if_false]
              rw [login, ofExcept_bind, bind_assoc]
              refine congrArg _ (funext fun parts => ?_)
              rcases parts with _ | ⟨user, _ | ⟨password, _ | ⟨part, parts⟩⟩⟩ <;> rfl

theorem plays_authenticate : Plays server (authenticate server s) d (naming server s) () := by
  rw [authenticate_eq, naming]
  split
  · exact plays_pure server () d
  · split
    · cases passwordOf s.account with
      | error e => exact plays_fail server e d [] ()
      | ok password =>
          simp only [ofExcept_ok, pure_bind]
          split
          · exact plays_pure server () d
          · exact plays_turn server (login s.account) d
    · exact plays_fail server _ d [] ()

theorem plays_leave : Plays server (leave server) d (leaving server) () := by
  -- The farewell is tried, which no rule above covers, so its few outcomes are run through.
  constructor <;> cases hquit : server.fails d.calls.length "quit" <;>
    cases hbreaks : server.breaksOnQuit <;>
    cases hclose : server.fails (d.calls.length + 1) "close" <;>
    simp [leave, leaving, Server.farewell, run_bind, Server.run_call, Server.play, Call.name, hquit,
      hbreaks, hclose, Except.map]

theorem connect_eq : connect server s = (ofExcept (connection s) >>= server.call) >>= fun _ =>
    (if server.hasSocket then ofExcept (patience s) >>= server.call else pure ()) >>= fun _ =>
      server.call (.setDebugLevel (s.flag .debug)) := by
  unfold connect connection patience
  cases s.host.truth with
  | false => rfl
  | true =>
      simp only [Bool.not_true, Bool.false_eq_true, if_false, ofExcept_bind, bind_assoc]
      refine congrArg _ (funext fun port => congrArg _ (funext fun _ => ?_))
      refine congrArg _ (funext fun timeout => congrArg _ (funext fun _ => ?_))
      cases server.hasSocket with
      | false => rfl
      | true => simp only [if_true, bind_assoc]; rfl

theorem plays_connect : Plays server (connect server s) d (opening server s) () := by
  rw [connect_eq]
  refine (plays_turn server (connection s) d).seq fun d' => Plays.seq (a := ()) ?_ fun d' => ?_
  · cases server.hasSocket with
    | true => exact plays_turn server (patience s) d'
    | false => exact plays_pure server () d'
  · exact plays_call server _ d'

/-- Only a greeting counts as one. -/
theorem keeps_greeted_connect (n : Nat) : Keeps (fun d => d.greeted = n) (connect server s) := by
  have hcall (c : Call) : Keeps (fun d : Dialogue => d.greeted = n) (server.call c) := by
    intro d hd
    rw [Server.run_call]
    exact hd
  have hturn (turn : Turn) : Keeps (fun d : Dialogue => d.greeted = n)
      (ofExcept turn >>= server.call) :=
    (keeps_ofExcept turn).bind hcall
  rw [connect_eq]
  refine (hturn (connection s)).bind fun _ => Keeps.bind ?_ fun _ => hcall _
  split
  · exact hturn (patience s)
  · exact keeps_pure ()

end Stages

/-! ### The turns of the whole -/

def conversation (server : Server) (s : Session) (l : Letter) : List Turn :=
  opening server s ++
    (introduction server 0 ++ (encryption server s ++ (naming server s ++ delivery server l)))

def agenda (server : Server) (s : Session) (m : Message) : List Turn :=
  match letterOf s m with
  | .error e => [.error e]
  | .ok l => conversation server s l

theorem plays_convey (server : Server) (s : Session) (l : Letter) (d : Dialogue) :
    Plays server (convey server s l.sender l.recipients l.text) d
      (naming server s ++ delivery server l) () := by
  refine (plays_authenticate server s d).seq fun d' => (plays_call server _ d').seq fun d' => ?_
  rw [← List.append_nil (leaving server)]
  exact (plays_leave server d').seq fun d' => plays_note server _ d'

theorem plays_send (server : Server) {m : Message} (hsession : m.session = some s) :
    Plays server (send server (some m)) .initial (agenda server s m) () := by
  rw [send_eq server hsession, agenda]
  cases letterOf s m with
  | error e => exact plays_fail server e .initial [] ()
  | ok l =>
      refine (plays_connect server s .initial).bind fun _ => ?_
      have hgreeted : ((connect server s).run .initial).state.greeted = 0 :=
        keeps_greeted_connect server s 0 .initial rfl
      have hintroduce := plays_introduce server ((connect server s).run .initial).state
      rw [hgreeted] at hintroduce
      refine hintroduce.seq fun d => (plays_encrypt server s d).seq fun d => ?_
      exact plays_convey server s l d

theorem run_send_agenda (server : Server) {m : Message} (hsession : m.session = some s) :
    let o := (send server (some m)).run .initial
    (o.state.calls, o.result) = server.play 0 (agenda server s m) := by
  obtain ⟨hcalls, hresult⟩ := plays_send server hsession
  refine Prod.ext hcalls (hresult.trans ?_)
  change (server.play 0 (agenda server s m)).2.map _ = _
  cases (server.play 0 (agenda server s m)).2 <;> rfl

theorem calls_send (server : Server) {m : Message} (hsession : m.session = some s) :
    ((send server (some m)).run .initial).state.calls = (server.play 0 (agenda server s m)).1 :=
  congrArg Prod.fst (run_send_agenda server hsession)

theorem result_send (server : Server) {m : Message} (hsession : m.session = some s) :
    ((send server (some m)).run .initial).result = (server.play 0 (agenda server s m)).2 :=
  congrArg Prod.snd (run_send_agenda server hsession)

end Mailroom.Relay
