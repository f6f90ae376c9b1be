/-
  ShardBridge.Proofs.Message.Tearing

  The beginning of a line that is a message.  The message ends with the closing
  bracket of its object.  A beginning that has lost it is no message, and not
  even JSON or not even text (`Message.ofLine_of_torn`).  A beginning that has
  it is the same message, for it has lost space at most
  (`Message.ofLine_of_trimmed`).
-/
import ShardBridge.Proofs.Json.Tearing
import ShardBridge.Proofs.Message.Decoding
import ShardBridge.Proofs.Session.Dialogue
import ShardBridge.Proofs.Text.Utf8

namespace ShardBridge

open Json (Document Members isSpace)
open Text (Utf8.encode Utf8.decode)

/-- The byte that closes an object. -/
def closingBrace : UInt8 := 0x7D

/-- The line is not text, or not JSON. -/
def MalformedLine.Unreadable (m : MalformedLine) : Prop :=
  (∃ u, m.cause = .invalidUtf8 u) ∨ ∃ e, m.cause = .invalidJson e

/-! ## Space -/

/-- Each space is one byte. -/
theorem Text.Utf8.encode_of_space {space : List Char} (h : space.all isSpace = true) :
    encode space = space.map fun c => UInt8.ofNat c.toNat := by
  induction space with
  | nil => rfl
  | cons c space ih =>
    rw [List.all_cons, Bool.and_eq_true] at h
    have hbyte : encodeChar c = [UInt8.ofNat c.toNat] := by
      have hc := h.1
      simp only [Json.isSpace, Bool.or_eq_true, decide_eq_true_eq] at hc
      rcases hc with ((rfl | rfl) | rfl) | rfl <;> rfl
    rw [show encode (c :: space) = encodeChar c ++ encode space from rfl, hbyte, ih h.2]
    rfl

/-- A beginning of space is space. -/
theorem Text.Utf8.of_encode_space {space : List Char} {a b : List UInt8}
    (h : space.all isSpace = true) (hab : encode space = a ++ b) :
    ∃ first, a = encode first ∧ first.all isSpace = true := by
  rw [encode_of_space h] at hab
  obtain ⟨first, second, rfl, hfirst, -⟩ := List.map_eq_append_iff.1 hab
  rw [List.all_append, Bool.and_eq_true] at h
  exact ⟨first, by rw [encode_of_space h.1, hfirst], h.1⟩

/-- What is cut off after an element without cutting off the element itself. -/
theorem append_eq_of_not_mem {α : Type} {a b c d : List α} {x : α} (h : a ++ b = c ++ x :: d)
    (hx : x ∉ b) : ∃ e, a = c ++ x :: e ∧ d = e ++ b := by
  rcases List.append_eq_append_iff.1 h with ⟨a', -, rfl⟩ | ⟨c', rfl, hd⟩
  · exact absurd (List.mem_append_right _ (List.mem_cons_self ..)) hx
  · cases c' with
    | nil =>
      rw [List.nil_append] at hd
      rw [← hd] at hx
      exact absurd (List.mem_cons_self ..) hx
    | cons y e =>
      obtain ⟨rfl, rfl⟩ := List.cons.inj hd
      exact ⟨e, rfl, rfl⟩

/-! ## Lines -/

namespace Message

/-- A line that is a message is text, and the text is an object. -/
theorem of_ofLine {line : Line} {m : Message} (h : ofLine line = .ok m) :
    ∃ text members, line = Utf8.encode text ∧ Document.Spelled text (.object members) ∧
      ofDocument ⟨.object members, false⟩ = .ok m := by
  rw [ofLine, Transport.textOf] at h
  cases htext : Utf8.decode line with
  | error u =>
    rw [htext] at h
    cases h
  | ok text =>
    rw [htext] at h
    have hdecode : decode (String.ofList text) = .ok m := h
    have hdocument := decode_eq_ok_ofDocument.1 hdecode
    obtain ⟨ms, hvalue, -, -⟩ := decode_iff.1 hdecode
    obtain ⟨t, hspelled, hv⟩ := Json.Value.ofText_eq_ok_iff.1 hvalue
    rw [String.toList_ofList] at hspelled hdocument
    obtain ⟨body, after, -, hbody, -⟩ := id hspelled
    cases hbody.denotes hv with
    | @object members _ _ =>
      rw [Document.ofText_of_spelled hspelled] at hdocument
      exact ⟨text, members, Text.Utf8.decode_eq_ok_iff.1 htext, hspelled, hdocument⟩

theorem ofLine_of_spelled {text : List Char} {members : Members} {m : Message}
    (h : Document.Spelled text (.object members))
    (hdocument : ofDocument ⟨.object members, false⟩ = .ok m) :
    ofLine (Utf8.encode text) = .ok m := by
  have htext : Transport.textOf (Utf8.encode text) = .ok (String.ofList text) := by
    rw [Transport.textOf, Text.Utf8.decode_eq_ok_iff.2 rfl]
  rw [ofLine_of_text htext, decode_eq_ok_ofDocument, String.toList_ofList,
    Document.ofText_of_spelled h, hdocument]

/-- A text without a value is no message. -/
theorem ofLine_of_fault {text : List Char} {f : Json.Fault}
    (h : (Document.ofText text).value = .error f) :
    ∃ e, ofLine (Utf8.encode text) = .error e ∧ e.Unreadable := by
  have htext : Transport.textOf (Utf8.encode text) = .ok (String.ofList text) := by
    rw [Transport.textOf, Text.Utf8.decode_eq_ok_iff.2 rfl]
  rw [ofLine_of_text htext, decode, ofDocument, String.toList_ofList, h]
  exact ⟨_, rfl, .inr ⟨_, rfl⟩⟩

variable {torn lost : Line} {m : Message}

/-- The beginning of a message that has lost the closing bracket is not read as anything. -/
theorem ofLine_of_torn (h : ofLine (torn ++ lost) = .ok m) (hlost : closingBrace ∈ lost) :
    ∃ e, ofLine torn = .error e ∧ e.Unreadable := by
  obtain ⟨all, members, hall, hspelled, -⟩ := of_ofLine h
  cases htext : Utf8.decode torn with
  | error u =>
    -- It was cut inside a character.
    have hnone : Transport.textOf torn =
        .error ⟨String.ofList (Text.Utf8.decodeLenient torn), .invalidUtf8 u⟩ := by
      rw [Transport.textOf, htext]
    exact ⟨_, ofLine_of_error hnone, .inl ⟨u, rfl⟩⟩
  | ok text =>
    obtain rfl := Text.Utf8.decode_eq_ok_iff.1 htext
    obtain ⟨more, rfl, rfl⟩ := Text.Utf8.encode_append_eq hall
    have hbrace : '}' ∈ more := (Text.Utf8.mem_encode_iff (by decide)).1 hlost
    obtain ⟨f, hf⟩ := Document.value_of_torn hspelled hbrace
    exact ofLine_of_fault hf

/-- The beginning of a message that has the closing bracket is the same message. -/
theorem ofLine_of_trimmed (h : ofLine (torn ++ lost) = .ok m) (hlost : closingBrace ∉ lost) :
    ofLine torn = .ok m := by
  obtain ⟨all, members, hall, hspelled, hdocument⟩ := of_ofLine h
  obtain ⟨used, space, rfl, hspace, hany⟩ := hspelled.closes
  have hbytes : torn ++ lost = Utf8.encode used ++ closingBrace :: Utf8.encode space := by
    rw [hall, Utf8.encode, List.flatMap_append, List.flatMap_cons]
    rfl
  obtain ⟨after, rfl, hafter⟩ := append_eq_of_not_mem hbytes hlost
  obtain ⟨first, rfl, hfirst⟩ := Text.Utf8.of_encode_space hspace hafter
  have htorn : Utf8.encode used ++ closingBrace :: Utf8.encode first =
      Utf8.encode (used ++ '}' :: first) := by
    rw [Utf8.encode, Utf8.encode, Utf8.encode, List.flatMap_append, List.flatMap_cons]
    rfl
  rw [htorn]
  exact ofLine_of_spelled (hany first hfirst) hdocument

end Message

end ShardBridge
