import Mailroom.Proofs.Wire.Besides
import Mailroom.Proofs.Wire.Writing

/-!
The content type of a mail whose body is set. It is made to name UTF-8: one that names a charset is
written anew, parameter by parameter, any other gets the charset at its end. That can fail only on
parameters that are spread over pieces or hold percent codes.
-/

namespace Mailroom.Wire

/-! ### Parameters -/

namespace Parameter

/-- Percent codes are of octets in the charset that the value names itself. -/
def IsWritable : ParameterValue → Prop
  | .plain _ => True
  | .extended charset _ s => (octetsIn (charset.getD []) s).isOk = true

theorem isOk_writeExtended (name : List Char) (charset language : Option (List Char))
    (s : List Char) :
    (writeExtended name charset language s).isOk = (octetsIn (charset.getD []) s).isOk := by
  unfold writeExtended
  dsimp only
  cases octetsIn (charset.getD []) s <;> rfl

theorem isOk_octetsIn_utf8 (s : List Char) : (octetsIn "utf-8".toList s).isOk = true := by
  have hnamed : Charset.named "encode" "utf-8".toList = .ok (.utf8 false) := rfl
  unfold octetsIn
  split
  · rfl
  · rw [if_neg (by decide), Charset.encodeNamed, hnamed]
    rfl

theorem isOk_write_iff (p : Parameter) : p.write.isOk = true ↔ IsWritable p.value := by
  obtain ⟨name, value⟩ := p
  cases value with
  | extended charset language s =>
      rw [write, isOk_writeExtended]
      rfl
  | plain s =>
      refine iff_of_true ?_ trivial
      cases s with
      | nil => rfl
      | cons c rest =>
          change (if Text.isAscii (c :: rest) then _ else _ : Except Fault (List Char)).isOk = true
          split
          · rfl
          · rw [isOk_writeExtended]
            exact isOk_octetsIn_utf8 _

end Parameter

namespace Entity

open Parameter

/-- A parameter as it is written when the content type is renewed. -/
def renewal (p : Parameter) : Except Fault (List Char) :=
  if Text.lower p.name == "charset".toList then (utf8Parameter "charset".toList).write
  else Parameter.write ⟨p.name, unquoted p.value⟩

theorem renewed_eq (s : List Char) :
    renewed s = ofHeader s >>= fun ps => (ps.mapM renewal).map fun written =>
      "; ".toList.intercalate (written.dropWhile (·.isEmpty)) := by
  unfold renewed
  cases ofHeader s with
  | error fault => rfl
  | ok ps =>
      change (ps.mapM renewal >>= _) = (ps.mapM renewal).map _
      cases ps.mapM renewal <;> rfl

/-- A content type with UTF-8 for its charset. -/
def inUtf8 (s : List Char) : Except Fault (List Char) := do
  if hasText (find? "charset".toList (← ofHeader s)) then renewed s
  else return s ++ "; charset=\"utf-8\"".toList

/-- Names UTF-8, when it can be read, and when all its parameters but the charset can be written,
should it have one. -/
def CanNameUtf8 (s : List Char) : Prop :=
  ∃ ps, ofHeader s = .ok ps ∧ (hasText (find? "charset".toList ps) = true →
    ∀ p ∈ ps, Text.lower p.name ≠ "charset".toList → IsWritable (unquoted p.value))

theorem isOk_renewal_iff (p : Parameter) :
    (renewal p).isOk = true ↔
      (Text.lower p.name ≠ "charset".toList → IsWritable (unquoted p.value)) := by
  unfold renewal
  split
  · rename_i hname
    refine iff_of_true ?_ fun hother => absurd (eq_of_beq hname) hother
    exact (Parameter.isOk_write_iff _).mpr trivial
  · rename_i hname
    have hother : Text.lower p.name ≠ "charset".toList := by simpa using hname
    rw [Parameter.isOk_write_iff]
    exact ⟨fun h _ => h, fun h => h hother⟩

theorem isOk_inUtf8_iff (s : List Char) : (inUtf8 s).isOk = true ↔ CanNameUtf8 s := by
  rw [inUtf8, isOk_bind, CanNameUtf8]
  refine exists_congr fun ps => and_congr_right fun hps => ?_
  split
  · rename_i hcharset
    rw [renewed_eq, hps]
    change ((ps.mapM renewal).map _).isOk = true ↔ _
    rw [isOk_map, isOk_mapM]
    simp only [hcharset, true_imp_iff]
    exact forall₂_congr fun p _ => isOk_renewal_iff p
  · rename_i hcharset
    exact iff_of_true rfl fun h => absurd h hcharset

/-! ### The body -/

variable {e : Entity} {s : String}

theorem nameCharset_of_none (h : e.get? contentTypeName = none) :
    e.nameCharset = .ok (e.append "Content-Type" (.text "text/plain; charset=\"utf-8\"")) := by
  rw [nameCharset, h]
  rfl

theorem nameCharset_of_text (h : e.get? contentTypeName = some (.text s)) (hs : s.isEmpty = false) :
    e.nameCharset = (inUtf8 s.toList).map fun r =>
      if s.toList = r then e else e.replace "Content-Type" (.text (String.ofList r)) := by
  have hcharset : e.charset? =
      ofHeader s.toList >>= fun ps => .ok (find? "charset".toList ps) := by
    simp only [charset?, contentTypeText, h, Value.plain, Except.map, bind, Except.bind]
    rfl
  have hutf8 : (utf8Parameter "charset".toList).write = .ok "charset=\"utf-8\"".toList := rfl
  have hlast (r : List Char) :
      (if (Value.text s).text? == some (String.ofList r) then (.ok e : Except Fault Entity)
        else .ok (e.replace "Content-Type" (.text (String.ofList r)))) =
      .ok (if s.toList = r then e else e.replace "Content-Type" (.text (String.ofList r))) := by
    have hsame : ((Value.text s).text? == some (String.ofList r)) = decide (s.toList = r) := by
      rw [Bool.eq_iff_iff, beq_iff_eq, decide_eq_true_iff]
      exact ⟨fun heq => by rw [Option.some.inj heq, String.toList_ofList],
        fun heq => by rw [← heq, String.ofList_toList]; rfl⟩
    rw [hsame]
    by_cases hr : s.toList = r <;> simp [hr]
  have hjoined : s.toList ++ "; ".toList ++ "charset=\"utf-8\"".toList =
      s.toList ++ "; charset=\"utf-8\"".toList := List.append_assoc ..
  have htruth : (Value.text s).truth = true := by rw [Value.truth, hs]; rfl
  rw [nameCharset, h]
  dsimp only [Value.plain, bind, Except.bind]
  rw [hcharset, inUtf8]
  cases ofHeader s.toList with
  | error fault => rfl
  | ok ps =>
      dsimp only [bind, Except.bind, pure, Except.pure]
      split
      · cases renewed s.toList with
        | error fault => rfl
        | ok r => exact hlast r
      · rw [hutf8, htruth, ← hjoined]
        exact hlast _

end Entity

end Mailroom.Wire
