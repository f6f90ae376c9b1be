/-
  ShardBridge.Proofs.Message.Wording

  How long the report on a line is that is no message.  The line is shown by
  its beginning, which is cut, and the words for the cause are short, so a long
  line alone does not make a long report.  But a cause can repeat a text of the
  line, and that is not cut: the name of no kind, the name of no variant, or a
  string in the place of something else (`MalformedCause.repeats?`).  Without
  such a text the report keeps below a thousand bytes, and with one it can be
  as long as the line (`Message.report_brief`, `Message.report_of_long_name`).
  All this is so wherever the reader says that it stopped: there is room for
  every place.
-/
import ShardBridge.Proofs.Json.Rendering
import ShardBridge.Proofs.Json.Wording
import ShardBridge.Proofs.Message.Rejection
import ShardBridge.Session.Error

namespace ShardBridge

open Json

/-- The text of the line that the words for a cause repeat. -/
def MalformedCause.repeats? : MalformedCause → Option String
  | .unknownAction name => some name
  | .invalidJson e => e.repeats?
  | .invalidPayload _ e => e.repeats?
  | _ => none

namespace MalformedLine

theorem utf8Len_le (text : List Char) : String.utf8Len text ≤ 4 * text.length := by
  induction text with
  | nil => exact Nat.le_refl 0
  | cons c text ih =>
    have hc := c.utf8Size_le_four
    rw [String.utf8Len_cons, List.length_cons]
    omega

/-- The beginning that is shown has two hundred characters, of four bytes at most. -/
theorem size_preview_le (m : MalformedLine) : m.preview.utf8ByteSize ≤ 800 := by
  have hsize := utf8Len_le (m.line.toList.take previewLength)
  have hlength : (m.line.toList.take previewLength).length ≤ 200 := List.length_take_le ..
  rw [preview, String.utf8ByteSize_ofList]
  omega

theorem size_message (locate : Locator) (m : MalformedLine) : (m.message locate).utf8ByteSize =
    22 + m.preview.utf8ByteSize + (m.cause.message (locate m)).utf8ByteSize := by
  show ("malformed message `" ++ _ ++ "`: " ++ _ : String).utf8ByteSize = _
  exact size_between (by decide) m.preview _

end MalformedLine

namespace Message

/-! ## The words of a cause -/

theorem short_vocabulary (a : Action) : (vocabulary a).Short := by
  cases a <;> constructor <;> decide

theorem size_name_le (a : Action) : a.name.utf8ByteSize ≤ 17 := by
  cases a <;> decide

/-- The longest list of variants comes with a short name of the kind. -/
theorem size_expectedVariants_le (a : Action) : ∀ variants ∈ (vocabulary a).variants,
    (expectedVariants variants).utf8ByteSize ≤ 136 - a.name.utf8ByteSize := by
  cases a <;> decide +kernel

/-- A value under a key stands in the text. -/
theorem denotes_of_lastWithKey {members : Members} {ms : List (String × Value)}
    (h : members.Denotes ms) {key : String} {v : Value} (hv : Value.lastWithKey key ms = some v) :
    ∃ t : Tree, t.Denotes v := by
  cases h with
  | close => cases hv
  | @member k value v' rest ms hvalue h =>
    rw [Value.lastWithKey] at hv
    -- A later member goes before this one.
    split at hv
    · next w hlast =>
      cases hv
      exact denotes_of_lastWithKey h hlast
    · split at hv
      · cases hv
        exact ⟨value, hvalue⟩
      · cases hv

/-- Where the kind is not named, or names no kind, or is no text, that is what is said. -/
theorem complaint_of_actionOf {members : Members} {ms : List (String × Value)}
    {cause : MalformedCause} (hmembers : members.Denotes ms)
    (h : actionOf (.object ms) = .error cause) :
    cause = .missingAction ∨ (∃ name, cause = .unknownAction name) ∨
      ∃ e, cause = .invalidJson e ∧ Complaint commonWords e := by
  rw [actionOf, Value.get?] at h
  split at h
  · cases h
    exact .inl rfl
  · cases h
    exact .inl rfl
  · next name _ =>
    split at h
    · cases h
    · cases h
      exact .inr (.inl ⟨name, rfl⟩)
  · next v _ _ hlast =>
    cases h
    obtain ⟨t, ht⟩ := denotes_of_lastWithKey hmembers hlast
    exact .inr (.inr ⟨_, rfl, .wrongType ht (by decide)⟩)

variable {line text : String} {cause : MalformedCause} {place : Option Place} {room : Nat}

theorem size_invalidJson (place : Option Place) (e : Json.Error) :
    ((MalformedCause.invalidJson e).message place).utf8ByteSize =
      14 + (e.message place).utf8ByteSize := by
  have hstart : "invalid JSON: ".utf8ByteSize = 14 := by decide
  show ("invalid JSON: " ++ _ : String).utf8ByteSize = _
  rw [String.utf8ByteSize_append, hstart]

theorem size_invalidPayload (place : Option Place) (a : Action) (e : Json.Error) :
    ((MalformedCause.invalidPayload a e).message place).utf8ByteSize =
      18 + a.name.utf8ByteSize + (e.message place).utf8ByteSize := by
  show ("invalid " ++ _ ++ " payload: " ++ _ : String).utf8ByteSize = _
  exact size_between (by decide) a.name _

theorem size_unknownAction (place : Option Place) (name : String) :
    ((MalformedCause.unknownAction name).message place).utf8ByteSize = 17 + name.utf8ByteSize := by
  show ("unknown action `" ++ _ ++ "`" : String).utf8ByteSize = _
  exact size_around (by decide) name

/-- The words for a cause are few when they repeat no text of the line. -/
theorem Stops.size_le (h : Stops line cause) (hnone : cause.repeats? = none)
    (hplace : ∀ p, place = some p → p.words.utf8ByteSize ≤ room) :
    (cause.message place).utf8ByteSize ≤ 116 + room := by
  cases h with
  | @notJson f _ =>
    have hfault : (Error.fault f).words.utf8ByteSize ≤ 62 := f.size_le
    have hmessage := Error.size_message_le hplace (.fault f)
    rw [size_invalidJson]
    omega
  | notAnObject _ _ =>
    -- These words name no place, so they are the same with any.
    have hsize : (MalformedCause.notAnObject.message none).utf8ByteSize ≤ 116 := by decide
    exact Nat.le_add_right_of_le hsize
  | kind _ hmembers haction =>
    rcases complaint_of_actionOf hmembers haction with rfl | ⟨name, rfl⟩ | ⟨e, rfl, he⟩
    · have hsize : (MalformedCause.missingAction.message none).utf8ByteSize ≤ 116 := by decide
      exact Nat.le_add_right_of_le hsize
    · cases hnone
    · have hsize := he.size_le (short_vocabulary .start) hnone
      have hmessage := e.size_message_le hplace
      rw [size_invalidJson]
      omega
  | @content _ _ a e _ hmembers _ h =>
    have hsize := (admits_ofTree a hmembers e h).size_le (short_vocabulary a) hnone
    have hmessage := e.size_message_le hplace
    have hname := size_name_le a
    rw [size_invalidPayload]
    omega

/-- Apart from a text of the line that they repeat, the words for a cause are few. -/
theorem Stops.size_le_of_repeats (h : Stops line cause) (hsome : cause.repeats? = some text)
    (hplace : ∀ p, place = some p → p.words.utf8ByteSize ≤ room) :
    (cause.message place).utf8ByteSize ≤ 174 + room + text.utf8ByteSize := by
  have hlist : ∀ a : Action, 25 ≤ 136 - a.name.utf8ByteSize := by
    intro a
    have hname := size_name_le a
    omega
  cases h with
  | notJson _ => cases hsome
  | notAnObject _ _ => cases hsome
  | kind _ hmembers haction =>
    rcases complaint_of_actionOf hmembers haction with rfl | ⟨name, rfl⟩ | ⟨e, rfl, he⟩
    · cases hsome
    · obtain rfl : name = text := Option.some.inj hsome
      rw [size_unknownAction]
      omega
    · have hsize := he.size_le_of_repeats (short_vocabulary .start) (hlist .start)
        (size_expectedVariants_le .start) hsome
      have hmessage := e.size_message_le hplace
      rw [size_invalidJson]
      omega
  | @content _ _ a e _ hmembers _ h =>
    have hsize := (admits_ofTree a hmembers e h).size_le_of_repeats (short_vocabulary a) (hlist a)
      (size_expectedVariants_le a) hsome
    have hmessage := e.size_message_le hplace
    have hname := size_name_le a
    rw [size_invalidPayload]
    omega

/-! ## The report -/

/-- A line that is rejected is kept whole, and when the words for the cause repeat no text of the
    line, then the report on it keeps below a thousand bytes, wherever the reader stopped; so does
    its first line in full if that was in the first line of the text, which is all there is of a
    line that has no line end within it.  Otherwise the repeated text is all that can make the
    report longer, apart from the place. -/
theorem report_brief {m : MalformedLine} (h : decode line = .error m) (locate : Locator) :
    m.line = line ∧
      (m.cause.repeats? = none →
        (m.message locate).utf8ByteSize < 1000 ∧
          ((∀ p, locate m = some p → p.line = 1) →
            ∃ first rest, (SessionError.malformed m).report locate = first :: rest ∧
              first.utf8ByteSize < 1000)) ∧
      ∀ text, m.cause.repeats? = some text →
        (m.message locate).utf8ByteSize < 1057 + text.utf8ByteSize := by
  obtain ⟨hline, hcause⟩ := decode_eq_error_iff.1 h
  have hstops := stops_of_ofDocument hcause
  have hmessage := m.size_message locate
  have hpreview := m.size_preview_le
  have hplace : ∀ p, locate m = some p → p.words.utf8ByteSize ≤ 57 := fun p _ => p.size_le
  refine ⟨hline, fun hnone => ⟨?_, fun hfirst => ⟨_, _, rfl, ?_⟩⟩, fun text hsome => ?_⟩
  -- Of a thousand bytes the line takes 800 and the fixed words 22; the cause and the place share
  -- what is left.
  · have hsize := hstops.size_le hnone hplace
    omega
  · have hsize := hstops.size_le hnone fun p hp => Place.size_le_of_first (hfirst p hp)
    have hheading : (reportHeading ++ ": ").utf8ByteSize = 23 := by decide
    show (reportHeading ++ ": " ++ m.message locate).utf8ByteSize < 1000
    rw [String.utf8ByteSize_append]
    omega
  · have hsize := hstops.size_le_of_repeats hsome hplace
    omega

/-- A number in the place of a name keeps the report short, also with the place of the number. -/
theorem report_brief_number :
    ∃ m, decode "\x7b\"action\":\"initialize\",\"shardId\":-15\x7d" = .error m ∧
      m.cause.repeats? = none ∧ (m.message fun _ => some ⟨1, 36⟩).utf8ByteSize < 1000 ∧
      ∃ first rest, (SessionError.malformed m).report (fun _ => some ⟨1, 36⟩) = first :: rest ∧
        first.utf8ByteSize < 1000 := by
  have hdecode : decode "\x7b\"action\":\"initialize\",\"shardId\":-15\x7d" =
      .error ⟨"\x7b\"action\":\"initialize\",\"shardId\":-15\x7d", .invalidPayload .start
        (.mismatch (.wrongType (.number (.integer (-15))) "a string"))⟩ := by
    cbv
  obtain ⟨-, hbrief, -⟩ := report_brief hdecode fun _ => some ⟨1, 36⟩
  obtain ⟨hmessage, hreport⟩ := hbrief rfl
  exact ⟨_, hdecode, rfl, hmessage, hreport fun p hp => (Option.some.inj hp) ▸ rfl⟩

/-- The line of an object that names its kind and nothing else. -/
def naming (name : String) : String := (Value.object [("action", .string name)]).text

theorem decode_naming {name : String} (h : ∀ a : Action, a.name ≠ name) :
    decode (naming name) = .error ⟨naming name, .unknownAction name⟩ := by
  have hprintable : (Value.object [("action", .string name)]).Printable greatestDepth := by
    simp [Value.Printable, Value.PrintableMembers, greatestDepth]
  have hget : (Value.object [("action", .string name)]).get? "action" = some (.string name) := by
    simp [Value.get?, Value.lastWithKey]
  have hnone : Action.named? name = none := by
    cases hname : Action.named? name with
    | none => rfl
    | some a => exact absurd (Action.named?_eq_some_iff.1 hname) (h a)
  have haction : actionOf (.object [("action", .string name)]) = .error (.unknownAction name) := by
    rw [actionOf, hget]
    dsimp only
    rw [hnone]
  refine decode_eq_error_iff.2 ⟨rfl, ?_⟩
  rw [ofDocument, ← Value.ofText, naming, Value.ofText_text hprintable]
  dsimp only
  rw [haction]

/-- A name of so many letters that no kind has. -/
def longName (n : Nat) : String := String.ofList (List.replicate n 'x')

theorem size_longName (n : Nat) : (longName n).utf8ByteSize = n := by
  rw [longName, String.utf8ByteSize_ofList]
  induction n with
  | zero => rfl
  | succ n ih =>
    rw [List.replicate_succ, String.utf8Len_cons, ih]
    rfl

/-- The report on a name that no kind has is as long as the name at least. -/
theorem size_name_le_message (locate : Locator) (line name : String) :
    name.utf8ByteSize ≤
      ((⟨line, .unknownAction name⟩ : MalformedLine).message locate).utf8ByteSize := by
  rw [MalformedLine.size_message, size_unknownAction]
  omega

/-- A long name of no kind makes a long report. -/
theorem report_of_long_name :
    ∃ m, decode (naming (longName 1000)) = .error m ∧
      ∀ locate : Locator, ¬ (m.message locate).utf8ByteSize < 1000 := by
  have hname : ∀ a : Action, a.name ≠ longName 1000 := by
    intro a ha
    have hle := size_name_le a
    rw [ha, size_longName] at hle
    exact absurd hle (by decide)
  refine ⟨_, decode_naming hname, fun locate => Nat.not_lt.2 ?_⟩
  have hle := size_name_le_message locate (naming (longName 1000)) (longName 1000)
  rwa [size_longName] at hle

end Message

end ShardBridge
