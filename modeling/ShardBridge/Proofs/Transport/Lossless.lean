/-
  ShardBridge.Proofs.Transport.Lossless

  Writing and then reading is lossless.  A text with a line end in it is
  refused, and nothing of it goes out; every other text is a line, and who reads
  the output gets the texts back word for word, but for those of white space
  only, which a reader passes over.  The line of a message starts with a brace
  and holds no control, so messages are never refused and never passed over
  (`Transport.lossless`).
-/
import ShardBridge.Proofs.Session.Calls
import ShardBridge.Proofs.Transport.Framing

namespace ShardBridge

open Input (content isLineEnd lineFeed lineOf linesOf)
open Session (outputOf outputOf_silent)
open Text.Utf8 (bytesOf encodeChar)

namespace Transport

/-! ## Texts as lines -/

/-- A line end is in the text. -/
def breaks (text : String) : Bool := text.toList.any breaksLine

/-- The character is ASCII white space. -/
def isAsciiSpace (c : Char) : Bool := c = '\t' || c = '\n' || c = '\x0c' || c = '\r' || c = ' '

/-- The text is nothing but ASCII white space. -/
def isAsciiBlank (text : String) : Bool := text.toList.all isAsciiSpace

variable {text : String} {texts : List String}

/-- A character is white space exactly when its bytes are. -/
theorem all_isBlankByte_encodeChar (c : Char) :
    (encodeChar c).all Text.isBlankByte = isAsciiSpace c := by
  rw [Bool.eq_iff_iff]
  constructor
  · -- A character has a first byte, and if this is white space, then it is ASCII, so that it stands
    -- for its own character.
    intro hall
    rw [List.all_eq_true] at hall
    obtain ⟨a, tail, hbytes, -⟩ := Text.Utf8.firstPiece_encodeChar c []
    have hmem : a ∈ encodeChar c := by
      rw [hbytes]
      exact List.mem_cons_self ..
    have hself := Char.ofNat_toNat c
    have hblank := hall a hmem
    simp only [Text.isBlankByte, Bool.or_eq_true, decide_eq_true_eq] at hblank
    rcases hblank with (((rfl | rfl) | rfl) | rfl) | rfl <;>
      rw [(Text.Utf8.mem_encodeChar_iff (by decide)).1 hmem] at hself <;>
      rw [← hself] <;>
      rfl
  · intro hspace
    simp only [isAsciiSpace, Bool.or_eq_true, decide_eq_true_eq] at hspace
    rcases hspace with (((rfl | rfl) | rfl) | rfl) | rfl <;> rfl

theorem all_isBlankByte_bytesOf (text : String) :
    (bytesOf text).all Text.isBlankByte = isAsciiBlank text := by
  rw [bytesOf, Text.Utf8.encode, List.all_flatMap, isAsciiBlank]
  exact List.all_congr rfl all_isBlankByte_encodeChar

/-- No byte of a text without a line end ends a line. -/
theorem isLineEnd_of_mem (h : breaks text = false) {b : UInt8} (hb : b ∈ bytesOf text) :
    isLineEnd b = false := by
  rw [breaks, List.any_eq_false] at h
  rw [isLineEnd, Bool.or_eq_false_iff, decide_eq_false_iff_not, decide_eq_false_iff_not]
  constructor
  · rintro rfl
    exact h _ ((Text.Utf8.mem_encode_iff (by decide)).1 hb) (by decide)
  · rintro rfl
    exact h _ ((Text.Utf8.mem_encode_iff (by decide)).1 hb) (by decide)

theorem lineFeed_not_mem_bytesOf (h : breaks text = false) : lineFeed ∉ bytesOf text := by
  intro hmem
  cases isLineEnd_of_mem h hmem

/-- The line that a text is, if a reader does not pass over it. -/
theorem lineOf_bytesOf (h : breaks text = false) :
    lineOf (bytesOf text) = if isAsciiBlank text then [] else [bytesOf text] := by
  have hcontent : content (bytesOf text) = bytesOf text := by
    rw [Input.content_eq, List.rdropWhile_eq_self_iff]
    intro hne
    rw [isLineEnd_of_mem h (List.getLast_mem hne)]
    exact Bool.false_ne_true
  rw [lineOf, Input.isBlankLine, hcontent, all_isBlankByte_bytesOf]

/-- The lines of texts that were written one after the other. -/
theorem linesOf_texts (h : ∀ text ∈ texts, breaks text = false) :
    linesOf (texts.flatMap lineBytes) =
      (texts.filter fun text => !isAsciiBlank text).map bytesOf := by
  induction texts with
  | nil => rfl
  | cons text texts ih =>
    obtain ⟨hfirst, hrest⟩ := List.forall_mem_cons.1 h
    -- The text ends with a line feed, so that no line goes on into the next text.
    have hends : ∃ init, lineBytes text = init ++ [lineFeed] := ⟨bytesOf text, rfl⟩
    have hline : linesOf (lineBytes text) = lineOf (bytesOf text) :=
      Input.linesOf_concat (lineFeed_not_mem_bytesOf hfirst)
    rw [List.flatMap_cons, Input.linesOf_append _ (.inr hends), hline, lineOf_bytesOf hfirst,
      ih hrest]
    cases hblank : isAsciiBlank text <;> simp [hblank]

theorem readOf_bytesOf (text : String) : readOf [bytesOf text] = .ok (some text) := by
  rw [readOf, textOf, decode_bytesOf]
  dsimp only
  rw [String.ofList_toList]

/-! ## Writing in turn -/

/-- Writes things one after the other, whatever comes of each of them. -/
def inTurn {α β : Type} (write : α → Transport → β × Transport) :
    List α → Transport → List β × Transport
  | [], t => ([], t)
  | a :: rest, t =>
    ((write a t).1 :: (inTurn write rest (write a t).2).1, (inTurn write rest (write a t).2).2)

variable {t : Transport}

/-- A text with a line end in it is refused, and nothing happens. -/
theorem writeLine_of_breaks (h : breaks text = true) (t : Transport) :
    t.writeLine text = (.error .embeddedNewline, t) := if_pos h

/-- A healthy stream takes any other text. -/
theorem writeLine_of_healthy (h : breaks text = false) (ht : t.output.policy.Healthy) :
    (t.writeLine text).1 = .ok () ∧ outputOf (t.writeLine text).2 = outputOf t ++ lineBytes text ∧
      (t.writeLine text).2.output.policy.Healthy := by
  have hlog : Silent t (t.log .trace .transport "-> daemon" [("line", .quoted text)]) :=
    silent_log _ _ _ _
  rw [breaks] at h
  rw [writeLine, h, if_neg Bool.false_ne_true]
  dsimp only
  -- The entry in the log comes first, and the output does not see it.
  generalize t.log .trace .transport "-> daemon" [("line", .quoted text)] = u at hlog ⊢
  rw [← hlog.output] at ht
  have hsent := @sendLine_ok .output u text ht
  obtain ⟨done, hdone, -, hall⟩ := sendLine_wrote .output text u
  obtain rfl := hall hsent
  obtain ⟨es, hes, -, hbytes⟩ := hdone.journal
  have houtput : outputOf (u.sendLine .output text).2 = outputOf t ++ lineBytes text := by
    rw [← outputOf_silent hlog, outputOf, hes, Journal.bytes_append, hbytes]
    rfl
  have hhealthy : (u.sendLine .output text).2.output.policy.Healthy := hdone.policy ▸ ht
  split
  · next heq =>
    rw [heq] at houtput hhealthy
    exact ⟨rfl, houtput, hhealthy⟩
  · next heq =>
    rw [heq] at hsent
    cases hsent

/-- What comes of each text, and what all of them put out. -/
theorem inTurn_writeLine (texts : List String) (ht : t.output.policy.Healthy) :
    (inTurn writeLine texts t).1 =
        texts.map (fun text => if breaks text then .error .embeddedNewline else .ok ()) ∧
      outputOf (inTurn writeLine texts t).2 =
        outputOf t ++ (texts.filter fun text => !breaks text).flatMap lineBytes := by
  induction texts generalizing t with
  | nil => exact ⟨rfl, (List.append_nil _).symm⟩
  | cons text texts ih =>
    rw [inTurn]
    by_cases hbreaks : breaks text = true
    · -- A refused text leaves the handle as it was.
      rw [writeLine_of_breaks hbreaks]
      obtain ⟨hresults, houtput⟩ := ih ht
      rw [hresults, houtput, List.map_cons, if_pos hbreaks,
        List.filter_cons_of_neg (by rw [hbreaks]; exact Bool.false_ne_true)]
      exact ⟨rfl, rfl⟩
    · -- Any other text leaves a healthy output for the rest of them.
      rw [Bool.not_eq_true] at hbreaks
      obtain ⟨hok, hline, hhealthy⟩ := writeLine_of_healthy hbreaks ht
      obtain ⟨hresults, houtput⟩ := ih hhealthy
      rw [hok, hresults, houtput, hline, List.map_cons, hbreaks,
        List.filter_cons_of_pos (by rw [hbreaks]; rfl), List.flatMap_cons, List.append_assoc]
      exact ⟨rfl, rfl⟩

/-- Messages are written as their lines are. -/
theorem inTurn_writeMessage (ms : List Message) (t : Transport) :
    inTurn writeMessage ms t = inTurn writeLine (ms.map Message.encode) t := by
  induction ms generalizing t with
  | nil => rfl
  | cons m ms ih =>
    rw [inTurn, ih, List.map_cons, inTurn]
    rfl

/-! ## Reading back -/

/-- The texts that a reader gets of those that were written. -/
def legible (texts : List String) : List String :=
  texts.filter fun text => !breaks text && !isAsciiBlank text

/-- Whoever reads what was written gets the texts, and then the end. -/
theorem readLines_of_written {r : Transport} (hends : r.input.failure = none)
    (hpending : r.input.pending = (texts.filter fun text => !breaks text).flatMap lineBytes)
    (n : Nat) :
    r.readLines n = ((legible texts).map (fun text => Except.ok (some text)) ++
      List.replicate n (Except.ok none)).take n := by
  have hwhole : ∀ text ∈ texts.filter fun text => !breaks text, breaks text = false := by
    intro text htext
    simpa using (List.mem_filter.1 htext).2
  have hread : (fun line => readOf [line]) ∘ bytesOf = fun text => Except.ok (some text) :=
    funext readOf_bytesOf
  have hfilter : (fun text => !isAsciiBlank text && !breaks text) =
      fun text => !breaks text && !isAsciiBlank text :=
    funext fun _ => Bool.and_comm _ _
  rw [readLines_of_feed (Input.feed_of_ends hends), Input.lines, hpending, linesOf_texts hwhole,
    List.map_map, hread, List.filter_filter, hfilter, legible]

/-! ## Lines of messages -/

/-- The line of a message starts with a brace. -/
theorem head?_encode (m : Message) : m.encode.toList.head? = some '\x7b' := by
  rw [Message.encode, Message.toJson, Json.Value.text, String.toList_ofList, Json.Value.render]
  rfl

/-- No control is in the line of a message. -/
theorem le_of_mem_encode {m : Message} {c : Char} (hc : c ∈ m.encode.toList) : 0x20 ≤ c.toNat := by
  rw [Message.encode, Json.Value.text, String.toList_ofList] at hc
  have hcontrol := Json.Value.unbroken_render m.printable_toJson c hc
  rw [Json.Literal.isControl, decide_eq_false_iff_not] at hcontrol
  exact Nat.le_of_not_lt hcontrol

/-- No message is refused for a line end. -/
theorem writeMessage_ne (m : Message) (t : Transport) :
    (t.writeMessage m).1 ≠ .error .embeddedNewline := by
  intro hrefused
  rcases hwrite : t.writeMessage m with ⟨result, t'⟩
  rw [hwrite] at hrefused
  obtain rfl : result = .error .embeddedNewline := hrefused
  obtain ⟨failure, hfailure⟩ := writeMessage_error hwrite
  cases hfailure

/-- No reader passes over the line of a message. -/
theorem isAsciiBlank_encode (m : Message) : isAsciiBlank m.encode = false := by
  have hhead := head?_encode m
  rw [isAsciiBlank]
  cases hline : m.encode.toList with
  | nil =>
    rw [hline] at hhead
    cases hhead
  | cons c rest =>
    rw [hline] at hhead
    obtain rfl := Option.some.inj hhead
    rfl

theorem legible_encode (ms : List Message) :
    legible (ms.map Message.encode) = ms.map Message.encode := by
  rw [legible, List.filter_eq_self]
  intro text htext
  obtain ⟨m, -, rfl⟩ := List.mem_map.1 htext
  rw [breaks, any_breaksLine_encode, isAsciiBlank_encode]
  rfl

/-- The lines of messages decode to the messages. -/
theorem map_decode_texts (ms : List Message) :
    ((ms.map Message.encode).map fun text => (Except.ok (some text) : Except SessionError _)).map
        (Except.map (Option.map Message.decode)) =
      ms.map fun m => Except.ok (some (.ok m)) := by
  rw [List.map_map, List.map_map]
  refine List.map_congr_left fun m _ => ?_
  show Except.ok (some (Message.decode m.encode)) = _
  rw [m.decode_encode]

/-- Writing and then reading is lossless.  A healthy stream refuses just the texts with a line end
    in them, and whoever reads what it took gets the others, but for those of white space only.  The
    line of a message is never refused and never passed over, so that messages that are written are
    read back as they were. -/
theorem lossless (t : Transport) (h : t.output.policy.Healthy) :
    (∀ texts : List String,
      (inTurn writeLine texts t).1 =
          texts.map (fun text => if breaks text then .error .embeddedNewline else .ok ()) ∧
        ∃ written, outputOf (inTurn writeLine texts t).2 = outputOf t ++ written ∧
          ∀ r : Transport, r.input.failure = none → r.input.pending = written → ∀ n,
            r.readLines n = ((legible texts).map (fun text => Except.ok (some text)) ++
              List.replicate n (Except.ok none)).take n) ∧
      (∀ (text : String) (u : Transport), breaks text = true →
        u.writeLine text = (.error .embeddedNewline, u)) ∧
      (∀ (m : Message) (u : Transport), m.encode.toList.head? = some '\x7b' ∧
        (∀ c ∈ m.encode.toList, 0x20 ≤ c.toNat) ∧
        (u.writeMessage m).1 ≠ .error .embeddedNewline) ∧
      ∀ ms : List Message,
        (inTurn writeMessage ms t).1 = ms.map (fun _ => .ok ()) ∧
          ∃ written, outputOf (inTurn writeMessage ms t).2 = outputOf t ++ written ∧
            ∀ r : Transport, r.input.failure = none → r.input.pending = written → ∀ n,
              (r.readLines n).map (Except.map (Option.map Message.decode)) =
                (ms.map (fun m => Except.ok (some (Except.ok m))) ++
                  List.replicate n (Except.ok none)).take n := by
  refine ⟨fun texts => ?_, fun text u hbreaks => writeLine_of_breaks hbreaks u,
    fun m u => ⟨head?_encode m, fun c hc => le_of_mem_encode hc, writeMessage_ne m u⟩,
    fun ms => ?_⟩
  · obtain ⟨hresults, houtput⟩ := inTurn_writeLine texts h
    exact ⟨hresults, _, houtput, fun r hends hpending => readLines_of_written hends hpending⟩
  · obtain ⟨hresults, houtput⟩ := inTurn_writeLine (ms.map Message.encode) h
    rw [inTurn_writeMessage]
    refine ⟨?_, _, houtput, fun r hends hpending n => ?_⟩
    · rw [hresults, List.map_map]
      refine List.map_congr_left fun m _ => ?_
      rw [Function.comp_apply, breaks, any_breaksLine_encode]
      rfl
    · rw [readLines_of_written hends hpending, legible_encode, List.map_take, List.map_append,
        map_decode_texts, List.map_replicate]
      rfl

/-- A handle on which these bytes wait to be read. -/
def holding (bytes : List UInt8) : Transport := ⟨.ofBytes bytes, .healthy, .healthy, #[], .silent⟩

/-- A blank text is passed over, and a text of two lines never gets out. -/
theorem lossless_skipping :
    ∃ written, outputOf (inTurn writeLine ["a", " ", "b\nc", "d"] (holding [])).2 = written ∧
      (holding written).readLines 3 = [.ok (some "a"), .ok (some "d"), .ok none] := by
  obtain ⟨-, written, houtput, hread⟩ :=
    (lossless (holding []) Sink.healthy_healthy).1 ["a", " ", "b\nc", "d"]
  have hlegible : legible ["a", " ", "b\nc", "d"] = ["a", "d"] := by cbv
  refine ⟨written, houtput, ?_⟩
  rw [hread (holding written) rfl (List.append_nil written), hlegible]
  rfl

end Transport

end ShardBridge
