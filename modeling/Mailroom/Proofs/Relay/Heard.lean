import Mailroom.Proofs.Relay.Turns

/-!
What a server hears of a list of turns, and which of the calls return: part by part, each part
behind those before it.
-/

namespace Mailroom.Relay

variable {server : Server} {place : Nat} {c d : Call} {turns first second : List Turn}

/-- The calls that returned, of those made from a place in the dialogue on. -/
def Server.returned (server : Server) (place : Nat) : List Call → List Call
  | [] => []
  | c :: rest =>
      if server.fails place c.name then server.returned (place + 1) rest
      else c :: server.returned (place + 1) rest

@[simp] theorem Server.returned_nil (server : Server) (place : Nat) :
    server.returned place [] = [] := rfl

theorem Server.returned_append (server : Server) (place : Nat) (calls later : List Call) :
    server.returned place (calls ++ later) =
      server.returned place calls ++ server.returned (place + calls.length) later := by
  induction calls generalizing place with
  | nil => rfl
  | cons c rest ih =>
      simp only [List.cons_append, returned, ih, List.length_cons, Nat.add_assoc, Nat.add_comm 1]
      split <;> rfl

theorem Server.returned_subset (server : Server) (place : Nat) (calls : List Call) :
    server.returned place calls ⊆ calls := by
  induction calls generalizing place with
  | nil => exact List.nil_subset _
  | cons c rest ih =>
      rw [returned]
      split
      · exact List.subset_cons_of_subset c (ih (place + 1))
      · exact List.cons_subset_cons c (ih (place + 1))

/-! ### What is heard of a list of turns -/

namespace Server

@[simp] theorem mem_play_call : c ∈ (server.play place (.ok d :: turns)).1 ↔
    c = d ∨ server.fails place d.name = false ∧ c ∈ (server.play (place + 1) turns).1 := by
  cases h : server.fails place d.name <;> simp [play, h]

@[simp] theorem play_call_ok : (server.play place (.ok d :: turns)).2 = .ok () ↔
    server.fails place d.name = false ∧ (server.play (place + 1) turns).2 = .ok () := by
  cases h : server.fails place d.name <;> simp [play, h]

@[simp] theorem mem_returned_play_call :
    c ∈ server.returned place (server.play place (.ok d :: turns)).1 ↔
      server.fails place d.name = false ∧
        (c = d ∨ c ∈ server.returned (place + 1) (server.play (place + 1) turns).1) := by
  cases h : server.fails place d.name <;> simp [play, h, returned]

theorem mem_play_append : c ∈ (server.play place (first ++ second)).1 ↔
    c ∈ (server.play place first).1 ∨
      (server.play place first).2 = .ok () ∧ c ∈ (server.play (place + first.length) second).1 := by
  cases h : (server.play place first).2 with
  | error e => simp [play_append_of_error h]
  | ok u => simp [play_append_of_ok h]

theorem play_append_ok : (server.play place (first ++ second)).2 = .ok () ↔
    (server.play place first).2 = .ok () ∧
      (server.play (place + first.length) second).2 = .ok () := by
  cases h : (server.play place first).2 with
  | error e => simp [play_append_of_error h, h]
  | ok u => simp [play_append_of_ok h]

theorem mem_returned_play_append :
    c ∈ server.returned place (server.play place (first ++ second)).1 ↔
      c ∈ server.returned place (server.play place first).1 ∨
        (server.play place first).2 = .ok () ∧ c ∈ server.returned (place + first.length)
          (server.play (place + first.length) second).1 := by
  cases h : (server.play place first).2 with
  | error e => simp [play_append_of_error h]
  | ok u => simp [play_append_of_ok h, returned_append, length_play_of_ok h]

theorem turn_mem_of_mem_play (h : c ∈ (server.play place turns).1) : .ok c ∈ turns := by
  induction turns generalizing place with
  | nil => cases h
  | cons turn rest ih =>
      cases turn with
      | error e => cases h
      | ok d =>
          rcases mem_play_call.mp h with rfl | ⟨-, h⟩
          · exact List.mem_cons_self
          · exact List.mem_cons_of_mem _ (ih h)

theorem play_of_failure {i : Nat} (hcall : (server.play place turns).1[i]? = some c)
    (hfails : server.fails (place + i) c.name = true) :
    (server.play place turns).1.length = i + 1 ∧
      (server.play place turns).2 = .error (.sendFailed c.name) := by
  induction turns generalizing place i with
  | nil => simp [play] at hcall
  | cons turn rest ih =>
      cases turn with
      | error e => simp [play] at hcall
      | ok d =>
          cases h : server.fails place d.name with
          | true =>
              rw [play_of_fails h] at hcall ⊢
              obtain ⟨rfl, rfl⟩ : i = 0 ∧ d = c := by
                cases i <;> simp_all
              exact ⟨rfl, rfl⟩
          | false =>
              rw [play_of_returns h] at hcall ⊢
              cases i with
              | zero =>
                  obtain rfl : d = c := by simpa using hcall
                  rw [Nat.add_zero, h] at hfails
                  cases hfails
              | succ i =>
                  obtain ⟨hlength, hresult⟩ := @ih (place + 1) i (by simpa using hcall)
                    (by rwa [Nat.add_assoc, Nat.add_comm 1])
                  exact ⟨by simp [hlength], hresult⟩

end Server

/-! ### What a list of turns leads to -/

section Following

variable {β : Type} {view : Call → β} {views later : List β}
  {Reason : List Call → Fault → Prop} {said : List Call}

/-- Behind the calls that are said, the turns make calls that look like this, one after the other,
unless a fault ends them for a reason. -/
inductive Follows (view : Call → β) (Reason : List Call → Fault → Prop) :
    List Call → List Turn → List β → Prop
  | nil {said : List Call} : Follows view Reason said [] []
  | fault {said : List Call} {e : Fault} (h : Reason said e) (rest : List Turn) (views : List β) :
      Follows view Reason said (.error e :: rest) views
  | call {said : List Call} (c : Call) {rest : List Turn} {views : List β}
      (h : Follows view Reason (said ++ [c]) rest views) :
      Follows view Reason said (.ok c :: rest) (view c :: views)

theorem Follows.append (h : Follows view Reason said first views)
    (hlater : ∀ more : List Call, more.map view = views →
      Follows view Reason (said ++ more) second later) :
    Follows view Reason said (first ++ second) (views ++ later) := by
  induction h with
  | nil => simpa using hlater [] rfl
  | fault h rest views => exact .fault h _ _
  | call c _ ih =>
      refine .call c (ih fun more hmore => ?_)
      simpa using hlater (c :: more) (by simp [hmore])

theorem follows_turn {turn : Turn} {v : β} (hcall : ∀ c, turn = .ok c → view c = v)
    (hfault : ∀ e, turn = .error e → Reason said e) : Follows view Reason said [turn] [v] := by
  cases turn with
  | error e => exact .fault (hfault e rfl) [] _
  | ok c =>
      rw [← hcall c rfl]
      exact .call c .nil

theorem Follows.behind {calls : List Call} (h : Follows view Reason (said ++ calls) turns views) :
    Follows view Reason said (calls.map .ok ++ turns) (calls.map view ++ views) := by
  induction calls generalizing said with
  | nil => simpa using h
  | cons c rest ih => exact .call c (ih (by simpa using h))

theorem follows_calls (calls : List Call) :
    Follows view Reason said (calls.map .ok) (calls.map view) := by
  have hnil : Follows view Reason (said ++ calls) [] [] := .nil
  simpa using hnil.behind

/-- Some calls, and then perhaps a fault. -/
theorem follows_blocked {calls : List Call} {blocked : Bool} {e : Fault}
    (h : blocked = true → Reason (said ++ calls) e) :
    Follows view Reason said (calls.map .ok ++ if blocked then [.error e] else [])
      (calls.map view) := by
  cases blocked with
  | true => simpa using Follows.behind (.fault (h rfl) [] [])
  | false => simpa using follows_calls calls

theorem Follows.begins (h : Follows view Reason said turns views) (server : Server)
    (place : Nat) : (server.play place turns).1.map view <+: views := by
  induction h generalizing place with
  | nil => exact List.prefix_rfl
  | fault h rest views => exact List.nil_prefix
  | call c _ ih =>
      cases hfails : server.fails place c.name with
      | true => simp [Server.play_of_fails hfails]
      | false =>
          rw [Server.play_of_returns hfails]
          exact (List.prefix_cons_inj (view c)).mpr (ih (place + 1))

theorem Follows.view_mem (h : Follows view Reason said turns views)
    (hc : c ∈ (server.play place turns).1) : view c ∈ views :=
  (h.begins server place).subset (List.mem_map_of_mem hc)

theorem Follows.not_mem (h : Follows view Reason said turns views) (hc : view c ∉ views) :
    c ∉ (server.play place turns).1 :=
  fun hmem => hc (h.view_mem hmem)

theorem Follows.not_mem_returned (h : Follows view Reason said turns views) (hc : view c ∉ views) :
    c ∉ server.returned place (server.play place turns).1 :=
  fun hmem => h.not_mem hc (server.returned_subset place _ hmem)

/-- All the turns are heard, or there is a reason to stop. -/
theorem Follows.ends (h : Follows view Reason said turns views)
    (hfailed : ∀ (calls : List Call) (c : Call), server.fails calls.length c.name = true →
      Reason (calls ++ [c]) (.sendFailed c.name)) :
    let heard := server.play said.length turns
    (heard.2 = .ok () ∧ heard.1.map view = views) ∨
      ∃ e, heard.2 = .error e ∧ Reason (said ++ heard.1) e := by
  -- What is said grows along the induction, and its length is the place of the next call.
  induction h with
  | nil => exact .inl ⟨rfl, rfl⟩
  | @fault said e h rest views => exact .inr ⟨e, rfl, by simpa using h⟩
  | @call said c rest views h ih =>
      cases hfails : server.fails said.length c.name with
      | true =>
          rw [Server.play_of_fails hfails]
          exact .inr ⟨_, rfl, hfailed said c hfails⟩
      | false =>
          rw [Server.play_of_returns hfails]
          simpa using ih

end Following

section Middle

variable {middle last : List Turn} {said later : List Call}
  {Reason Later : List Call → Fault → Prop} {names more : List String}
  (hfirst : Follows Call.name Reason said first names)
  (hlast : Follows Call.name Later later last more)
  (hc : c.name ∉ names) (hmore : c.name ∉ more)
include hfirst hlast hc hmore

theorem mem_play_middle : c ∈ (server.play place (first ++ (middle ++ last))).1 ↔
    (server.play place first).2 = .ok () ∧
      c ∈ (server.play (place + first.length) middle).1 := by
  simp [Server.mem_play_append, hfirst.not_mem hc, hlast.not_mem hmore]

theorem mem_returned_play_middle :
    c ∈ server.returned place (server.play place (first ++ (middle ++ last))).1 ↔
      (server.play place first).2 = .ok () ∧ c ∈ server.returned (place + first.length)
        (server.play (place + first.length) middle).1 := by
  simp [Server.mem_returned_play_append, hfirst.not_mem_returned hc,
    hlast.not_mem_returned hmore]

end Middle

end Mailroom.Relay
