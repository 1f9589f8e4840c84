import Mailroom.Proofs.Agreement
import Mailroom.Session.Resolver

/-!
Settings and sessions that differ in their passwords at most. The standard links find like sessions
for like settings: they hand a password over in the account and do nothing else with it.
-/

namespace Mailroom

open Mailroom.Action

/-- Two passwords that are the same or both texts. -/
inductive PasswordsAlike : Value → Value → Prop
  | same (v : Value) : PasswordsAlike v v
  | texts (s t : String) : PasswordsAlike (.text s) (.text t)

theorem PasswordsAlike.isNothing {p q : Value} (h : PasswordsAlike p q) :
    p.isNothing = q.isNothing := by
  cases h <;> rfl

namespace Settings

variable {c d : Settings}

structure Alike (c d : Settings) : Prop where
  others : ∀ setting, setting ≠ .password → c.get setting = d.get setting
  passwords : PasswordsAlike c.password d.password

theorem Alike.setPassword (h : Alike c d) {p q : Value} (hpasswords : PasswordsAlike p q) :
    Alike (c.set .password p) (d.set .password q) where
  others asked hasked := by
    rw [get_set_of_ne _ p hasked, get_set_of_ne _ q hasked, h.others asked hasked]
  passwords := hpasswords

theorem Alike.set (h : Alike c d) (setting : Setting) (v : Value) :
    Alike (c.set setting v) (d.set setting v) := by
  by_cases hpassword : setting = .password
  · rw [hpassword]
    exact h.setPassword (.same v)
  · have hkept (c : Settings) : (c.set setting v).password = c.password :=
      get_set_of_ne c v (Ne.symm hpassword)
    refine ⟨fun asked hasked => ?_, ?_⟩
    · by_cases hsame : asked = setting
      · rw [hsame, get_set_self, get_set_self]
      · rw [get_set_of_ne _ v hsame, get_set_of_ne _ v hsame, h.others asked hasked]
    · rw [hkept, hkept]
      exact h.passwords

/-- Like settings are the same settings with one password and with another. -/
theorem Alike.eq_set (h : Alike c d) : d = c.set .password d.password := by
  refine eq_of_get fun setting => ?_
  by_cases hpassword : setting = .password
  · rw [hpassword, get_set_self]
    rfl
  · rw [get_set_of_ne _ _ hpassword, h.others setting hpassword]

theorem Alike.shown (h : Alike c d) : c.shown = d.shown := by
  rw [h.eq_set]
  rfl

end Settings

/-- Two accounts that are the same, or of two parts each with the same user name. -/
inductive AccountsAlike : Value → Value → Prop
  | same (account : Value) : AccountsAlike account account
  | named (user : Value) {p q : Value} (passwords : PasswordsAlike p q) :
      AccountsAlike (.tuple [user, p]) (.tuple [user, q])

theorem AccountsAlike.isNothing {a b : Value} (h : AccountsAlike a b) :
    a.isNothing = b.isNothing := by
  cases h <;> rfl

namespace Session

variable {s t : Session}

structure Alike (s t : Session) : Prop where
  origin : s.origin = t.origin
  properties : s.properties = t.properties
  account : AccountsAlike s.account t.account

theorem Alike.refl (s : Session) : Alike s s := ⟨rfl, rfl, .same _⟩

theorem rel_alike_refl (s : Option Session) : Option.Rel Alike s s := by
  cases s with
  | none => exact .none
  | some s => exact .some (.refl s)

theorem Alike.get (h : Alike s t) (p : Property) : s.get p = t.get p := by
  rw [Session.get, Session.get, find?, find?, h.properties]

theorem Alike.host (h : Alike s t) : s.host = t.host := h.get .host

theorem Alike.flag (h : Alike s t) (p : Property) : s.flag p = t.flag p := by
  rw [Session.flag, Session.flag, h.get]

theorem Alike.number? (h : Alike s t) (p : Property) : s.number? p = t.number? p := by
  rw [Session.number?, Session.number?, h.get]

theorem Alike.shown (h : Alike s t) : s.shown = t.shown := by
  simp only [Session.shown, h.host, h.get]

theorem fromSettings_agrees {c d : Settings} (h : c.Alike d) :
    ResultsAgree (fun opened other => opened.1 = other.1 ∧ AccountsAlike opened.2 other.2)
      (fromSettings c) (fromSettings d) := by
  have hpasswords := h.passwords
  rw [h.eq_set]
  refine ResultsAgree.seq (checkInt .smtpPort (portValue c) 1 (some greatestPort)) fun port => ?_
  refine ResultsAgree.seq (checkTimeout .socketTimeout c.socketTimeout) fun timeout => ?_
  refine ResultsAgree.seq (checkTimeout .socketConnectionTimeout c.socketConnectionTimeout)
    fun connectionTimeout => .value ⟨rfl, ?_⟩
  change AccountsAlike (if c.username.truth then _ else _) (if c.username.truth then _ else _)
  split
  · exact .named c.username hpasswords
  · exact .same _

/-- What links are asked about in the same way, but for passwords. -/
structure Inquiry.Alike (q r : Inquiry) : Prop where
  explicit : Option.Rel Session.Alike q.explicit r.explicit
  settings : q.settings.Alike r.settings

/-- A link that finds like sessions for like settings, and is seen to do the same. -/
def Link.IsDiscreet (link : Link) : Prop :=
  ∀ explicit explicit' c d serial, Option.Rel Alike explicit explicit' → c.Alike d →
    Agrees Inquiry.Alike (Option.Rel Alike) (link explicit c serial).act
      (link explicit' d serial).act

theorem isDiscreet_explicitLink : Link.IsDiscreet explicitLink :=
  fun _ _ _ _ _ hexplicit _ => agrees_pure hexplicit

theorem isDiscreet_settingsLink : Link.IsDiscreet settingsLink := by
  intro explicit explicit' c d serial _ hsettings
  have hhost : c.hostName = d.hostName := hsettings.others .hostName nofun
  unfold settingsLink
  rw [← hhost]
  split
  · exact agrees_pure .none
  · refine (agrees_ofExcept (fromSettings_agrees hsettings)).bind ?_
    rintro ⟨properties, account⟩ ⟨_, account'⟩ ⟨rfl, haccounts⟩
    refine (agrees_note ?_).seq fun _ => agrees_pure (.some ⟨rfl, rfl, haccounts⟩)
    simp only [builtText, hhost]
    rfl

theorem isDiscreet_emptyLink : Link.IsDiscreet emptyLink := fun _ _ _ _ _ _ _ =>
  (agrees_note rfl).seq fun _ => agrees_pure (.some (.refl _))

theorem isDiscreet_of_mem_standardLinks {link : Link} (h : link ∈ standardLinks) :
    link.IsDiscreet := by
  simp only [standardLinks, List.mem_cons, List.not_mem_nil, or_false] at h
  rcases h with rfl | rfl | rfl
  · exact isDiscreet_explicitLink
  · exact isDiscreet_settingsLink
  · exact isDiscreet_emptyLink

theorem agrees_ask {links : List Link} (hlinks : ∀ link ∈ links, link.IsDiscreet) (serial : Nat) :
    Agrees Inquiry.Alike Alike (ask serial links) (ask serial links) := by
  induction links with
  | nil => exact agrees_fail _
  | cons link rest ih =>
      refine agrees_state.bind fun q r hqr => ?_
      have hlink := hlinks link List.mem_cons_self _ _ _ _ serial hqr.explicit hqr.settings
      refine hlink.bind ?_
      rintro _ _ (hfound | ⟨⟩)
      · exact agrees_pure hfound
      · exact ih fun link hlink => hlinks link (List.mem_cons_of_mem _ hlink)

end Session

end Mailroom
