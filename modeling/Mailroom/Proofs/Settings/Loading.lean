import Mailroom.Settings.Loading

/-!
Settings that are read from options. An option that is there makes its own setting what its text is
read as, and no other; a number that cannot be read is the only fault.
-/

namespace Mailroom

namespace Setting

theorem mem_readingOrder (setting : Setting) : setting ∈ readingOrder := by
  cases setting <;> decide

theorem nodup_readingOrder : readingOrder.Nodup := by decide

theorem option_injective {first second : Setting} (h : first.option.1 = second.option.1) :
    first = second := by
  cases first <;> cases second <;> first | rfl | exact absurd h (by decide)

theorem integerOrNothing_iff (setting : Setting) : setting.option.2 = .integerOrNothing ↔
    setting ∈ [.smtpPort, .socketTimeout, .socketConnectionTimeout] := by
  cases setting <;> decide

/-- A text that no number can be read from: it does not stand for nothing either. -/
structure Unreadable (setting : Setting) (s : String) : Prop where
  isNumber : setting ∈ [.smtpPort, .socketTimeout, .socketConnectionTimeout]
  isSet : s ≠ "" ∧ s ≠ "None"
  notInteger : ¬∃ n, Number.readInteger s.toList = .ok n

theorem toInt_text_cases (s : String) :
    (∃ n, Number.readInteger s.toList = .ok n ∧ (Value.text s).toInt = .ok n) ∨
      (¬∃ n, Number.readInteger s.toList = .ok n) ∧
        ∃ cause, (Value.text s).toInt = .error (.value cause) := by
  rw [Value.toInt]
  cases Number.readInteger s.toList with
  | ok n => exact .inl ⟨n, rfl, rfl⟩
  | error fault =>
      refine .inr ⟨nofun, ?_⟩
      cases fault with
      | malformed => exact ⟨_, rfl⟩
      | tooManyDigits count => exact ⟨_, rfl⟩

/-- A text is read, or it is unreadable. -/
theorem read_text_cases (setting : Setting) (s : String) :
    (∃ v, setting.option.2.read (.text s) = .ok v ∧ ¬setting.Unreadable s) ∨
      setting.Unreadable s ∧ ∃ cause, setting.option.2.read (.text s) = .error (.value cause) := by
  have hnumber := setting.integerOrNothing_iff
  cases hkind : setting.option.2 with
  | textOrNothing | switch =>
      have hother : ¬setting.Unreadable s := fun h => by
        have hisNumber := hnumber.mpr h.isNumber
        rw [hkind] at hisNumber
        cases hisNumber
      exact .inl ⟨_, rfl, hother⟩
  | integerOrNothing =>
      by_cases hunset : s = "" ∨ s = "None"
      · have hread : OptionKind.integerOrNothing.read (.text s) = .ok .nothing := by
          have hnothing : readText (.text s) = .nothing := if_pos (by simpa using hunset)
          rw [OptionKind.read, readNumber, hnothing]
        exact .inl ⟨.nothing, hread, fun h => hunset.elim h.isSet.1 h.isSet.2⟩
      · have hread : OptionKind.integerOrNothing.read (.text s) =
            (Value.text s).toInt.map .int := by
          have hgiven : readText (.text s) = .text s := if_neg (by simpa using hunset)
          rw [OptionKind.read, readNumber, hgiven]
        rw [hread]
        obtain ⟨n, hn, htext⟩ | ⟨hnone, cause, htext⟩ := toInt_text_cases s
        · rw [htext]
          exact .inl ⟨_, rfl, fun h => h.notInteger ⟨n, hn⟩⟩
        · rw [htext]
          exact .inr ⟨⟨hnumber.mp hkind, not_or.mp hunset, hnone⟩, cause, rfl⟩

end Setting

namespace Settings

variable {find? : String → Option String}

/-- Reads one option into the settings. -/
def readOption (find? : String → Option String) (c : Settings) (setting : Setting) :
    Except Fault Settings :=
  match find? setting.option.1 with
  | none => .ok c
  | some s => do return c.set setting (← setting.option.2.read (.text s))

theorem ofOptions_eq (find? : String → Option String) :
    ofOptions find? = Setting.readingOrder.foldlM (readOption find?) initial := rfl

/-- What a setting becomes by the options: what its own one says, if there is one. -/
def Becomes (find? : String → Option String) (setting : Setting) (v w : Value) : Prop :=
  match find? setting.option.1 with
  | none => w = v
  | some s => setting.option.2.read (.text s) = .ok w

theorem readOption_cases (find? : String → Option String) (c : Settings) (setting : Setting) :
    (∃ d, readOption find? c setting = .ok d ∧
        Becomes find? setting (c.get setting) (d.get setting) ∧
        ∀ other, other ≠ setting → d.get other = c.get other) ∨
      ∃ s e, find? setting.option.1 = some s ∧ setting.option.2.read (.text s) = .error e ∧
        readOption find? c setting = .error e := by
  unfold readOption Becomes
  cases find? setting.option.1 with
  | none => exact .inl ⟨c, rfl, rfl, fun _ _ => rfl⟩
  | some s =>
      dsimp only
      cases hread : setting.option.2.read (.text s) with
      | error e => exact .inr ⟨s, e, rfl, hread, rfl⟩
      | ok v =>
          have hown : (c.set setting v).get setting = v := get_set_self c setting v
          refine .inl ⟨c.set setting v, rfl, ?_, fun other hother => get_set_of_ne c v hother⟩
          rw [hown]

/-- Each setting of a list becomes what its option says and no other is touched, or the first option
that cannot be read is the fault. -/
theorem foldlM_readOption_cases (find? : String → Option String) {settings : List Setting}
    (h : settings.Nodup) (c : Settings) :
    (∃ d, settings.foldlM (readOption find?) c = .ok d ∧
        (∀ setting ∈ settings, Becomes find? setting (c.get setting) (d.get setting)) ∧
        ∀ other, other ∉ settings → d.get other = c.get other) ∨
      ∃ (setting : Setting) (s : String) (e : Fault), find? setting.option.1 = some s ∧
        setting.option.2.read (.text s) = .error e ∧
        settings.foldlM (readOption find?) c = .error e := by
  induction settings generalizing c with
  | nil => exact .inl ⟨c, rfl, nofun, fun _ _ => rfl⟩
  | cons first rest ih =>
      obtain ⟨hfirst, hrest⟩ := List.nodup_cons.mp h
      rw [List.foldlM_cons]
      obtain ⟨d, hd, hown, hother⟩ | ⟨s, e, hs, hread, he⟩ := readOption_cases find? c first
      · rw [hd]
        obtain ⟨t, ht, hbecomes, hkept⟩ | hfault := ih hrest d
        · refine .inl ⟨t, ht, List.forall_mem_cons.mpr ⟨?_, fun setting hmem => ?_⟩, ?_⟩
          · rw [hkept first hfirst]
            exact hown
          · rw [← hother setting fun heq => hfirst (heq ▸ hmem)]
            exact hbecomes setting hmem
          · intro other hmem
            obtain ⟨hne, hmem⟩ := not_or.mp (mt List.mem_cons.mpr hmem)
            rw [hkept other hmem, hother other hne]
        · exact .inr hfault
      · rw [he]
        exact .inr ⟨first, s, e, hs, hread, rfl⟩

/-- All settings become what their options say, or an option is unreadable. -/
theorem ofOptions_cases (find? : String → Option String) :
    (∃ d, ofOptions find? = .ok d ∧
        ∀ setting, Becomes find? setting (initial.get setting) (d.get setting)) ∨
      ∃ (setting : Setting) (s : String) (cause : ValueFault), find? setting.option.1 = some s ∧
        setting.Unreadable s ∧ ofOptions find? = .error (.value cause) := by
  rw [ofOptions_eq]
  obtain ⟨d, hd, hbecomes, -⟩ | ⟨setting, s, e, hs, hread, he⟩ :=
    foldlM_readOption_cases find? Setting.nodup_readingOrder initial
  · exact .inl ⟨d, hd, fun setting => hbecomes setting setting.mem_readingOrder⟩
  · obtain ⟨v, hv, -⟩ | ⟨hunreadable, cause, hcause⟩ := setting.read_text_cases s
    · rw [hv] at hread
      cases hread
    · obtain rfl := Except.error.inj (hread.symm.trans hcause)
      exact .inr ⟨setting, s, cause, hs, hunreadable, he⟩

theorem ofOptions_congr {find? other? : String → Option String}
    (h : ∀ setting : Setting, find? setting.option.1 = other? setting.option.1) :
    ofOptions find? = ofOptions other? := by
  have hstep : readOption find? = readOption other? := by
    funext c setting
    rw [readOption, readOption, h]
  rw [ofOptions_eq, ofOptions_eq, hstep]

end Settings

end Mailroom
