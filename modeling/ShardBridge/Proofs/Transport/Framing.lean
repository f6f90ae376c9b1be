/-
  ShardBridge.Proofs.Transport.Framing

  The lines of a stream in terms of list operations: the bytes are split at
  every line feed, the carriage returns at the end of each segment are dropped,
  and segments of nothing but white space do not count (`Input.framed`).  A
  stream that ends without failing gives the reads just these segments, each as
  its text or, when it is no UTF-8, as an error of that one read; after the last
  one every read finds the end (`Transport.readLines_framed`).
-/
import ShardBridge.Proofs.Session.Request
import ShardBridge.Proofs.Stream.Cutting
import ShardBridge.Proofs.Text.Utf8

namespace ShardBridge

/-! ## Segments of a byte string -/

namespace Input

/-- The byte string, split at every line feed. What follows the last one counts unless it is
    empty. -/
def segments (bytes : List UInt8) : List (List UInt8) :=
  let pieces := bytes.splitOn lineFeed
  if pieces.getLast? = some [] then pieces.dropLast else pieces

/-- A segment without the carriage returns at its end. -/
def strip (segment : List UInt8) : List UInt8 := segment.rdropWhile (· = carriageReturn)

/-- ASCII white space that a segment can hold: a tab, a form feed, a carriage return or a space. -/
def isSpace (b : UInt8) : Bool := b = 0x09 || b = 0x0C || b = 0x0D || b = 0x20

/-- The segments without their ends, and only those that do not consist of white space. -/
def framed (bytes : List UInt8) : List (List UInt8) :=
  ((segments bytes).map strip).filter fun segment => !segment.all isSpace

variable {bytes rest : List UInt8}

theorem segments_of_no_lineFeed (h : lineFeed ∉ bytes) :
    segments bytes = if bytes = [] then [] else [bytes] := by
  rw [segments, List.splitOn_eq_singleton h]
  by_cases hnil : bytes = []
  · rw [if_pos hnil, hnil]
    rfl
  · rw [if_neg hnil, if_neg]
    intro hlast
    exact hnil (Option.some.inj hlast)

theorem segments_append (h : lineFeed ∉ bytes) (rest : List UInt8) :
    segments (bytes ++ lineFeed :: rest) = bytes :: segments rest := by
  have hne : rest.splitOn lineFeed ≠ [] := List.splitOn_ne_nil _ _
  have hlast : (bytes :: rest.splitOn lineFeed).getLast? = (rest.splitOn lineFeed).getLast? := by
    rw [List.getLast?_cons_of_ne_nil hne]
  rw [segments, segments, List.splitOn_append_cons_self, List.splitOn_eq_singleton h,
    List.singleton_append, hlast]
  split
  · rw [List.dropLast_cons_of_ne_nil hne]
  · rfl

/-! ### Lines and segments -/

/-- Without a line feed in it, a line ends with its carriage returns. -/
theorem content_eq_strip (h : lineFeed ∉ bytes) : content bytes = strip bytes := by
  rw [content_eq, strip]
  induction bytes using List.reverseRecOn with
  | nil => rfl
  | append_singleton bytes b ih =>
    rw [List.mem_append, List.mem_singleton, not_or] at h
    have hend : isLineEnd b = decide (b = carriageReturn) := by
      rw [isLineEnd, decide_eq_false (Ne.symm h.2), Bool.false_or]
    rw [List.rdropWhile_concat, List.rdropWhile_concat, hend, ih h.1]

theorem all_isBlankByte_eq (h : lineFeed ∉ bytes) :
    bytes.all Text.isBlankByte = bytes.all isSpace := by
  induction bytes with
  | nil => rfl
  | cons b bytes ih =>
    rw [List.mem_cons, not_or] at h
    have hfeed : decide (b = 0x0A) = false := decide_eq_false (Ne.symm h.1)
    have hbyte : Text.isBlankByte b = isSpace b := by
      rw [Text.isBlankByte, isSpace, hfeed, Bool.or_false]
    rw [List.all_cons, List.all_cons, hbyte, ih h.2]

/-- The line that a segment is, if it counts. -/
theorem lineOf_eq (h : lineFeed ∉ bytes) :
    lineOf bytes = [strip bytes].filter fun segment => !segment.all isSpace := by
  have hstrip : lineFeed ∉ strip bytes := by
    intro hmem
    exact h ((List.rdropWhile_prefix _ _).subset hmem)
  rw [lineOf, isBlankLine, content_eq_strip h, all_isBlankByte_eq hstrip]
  cases hall : (strip bytes).all isSpace <;> simp [hall]

/-- The lines of a byte string are its segments. -/
theorem linesOf_eq_framed (bytes : List UInt8) : linesOf bytes = framed bytes := by
  -- By the first line feed, if there is one.
  induction hn : bytes.length using Nat.strongRecOn generalizing bytes with
  | _ n ih =>
    by_cases hfeed : lineFeed ∈ bytes
    · obtain ⟨first, rest, rfl, hfirst⟩ := List.eq_append_cons_of_mem hfeed
      have hlt : rest.length < n := by
        rw [← hn, List.length_append, List.length_cons]
        omega
      have hsplit : first ++ lineFeed :: rest = (first ++ [lineFeed]) ++ rest := by
        rw [List.append_assoc, List.singleton_append]
      have hframed : framed (first ++ lineFeed :: rest) = lineOf first ++ framed rest := by
        rw [lineOf_eq hfirst, framed, segments_append hfirst, List.map_cons]
        exact List.filter_append [strip first] _
      rw [hframed, hsplit, linesOf_append _ (.inr ⟨first, rfl⟩), linesOf_concat hfirst,
        ih _ hlt rest rfl]
    · rw [linesOf_of_no_lineFeed hfeed, framed, segments_of_no_lineFeed hfeed]
      by_cases hnil : bytes = []
      · rw [if_pos hnil, hnil]
        rfl
      · rw [if_neg hnil, lineOf_eq hfeed]
        rfl

end Input

/-! ## Reading line by line -/

namespace Transport

/-- What so many reads give, one after the other. -/
def readLines : Nat → Transport → List (Except SessionError (Option String))
  | 0, _ => []
  | n + 1, t => t.readLine.1 :: readLines n t.readLine.2

/-- What a read has to give for a line: its text when its bytes are valid UTF-8, and otherwise an
    error that says so and shows the line. -/
inductive Reads (line : Line) : Except SessionError (Option String) → Prop
  | text {text : String} (h : line.toByteArray = text.toByteArray) : Reads line (.ok (some text))
  | malformed {m : Text.Utf8.Malformation} (h : ¬ line.toByteArray.IsValidUTF8)
      (hm : Text.Utf8.decode line = .error m) :
      Reads line
        (.error (.malformed ⟨String.ofList (Text.Utf8.decodeLenient line), .invalidUtf8 m⟩))

theorem decode_bytesOf (text : String) :
    Text.Utf8.decode (Text.Utf8.bytesOf text) = .ok text.toList :=
  Text.Utf8.decode_eq_ok_iff.2 rfl

/-- A read gives for a line just what it has to. -/
theorem reads_iff {line : Line} {result : Except SessionError (Option String)} :
    Reads line result ↔ result = readOf [line] := by
  rw [readOf, textOf]
  constructor
  · intro h
    cases h with
    | @text text h =>
      have hline : line = Text.Utf8.bytesOf text := by
        rw [← Text.Utf8.toByteArray_bytesOf] at h
        exact List.toByteArray_inj.1 h
      rw [hline, decode_bytesOf]
      dsimp only
      rw [String.ofList_toList]
    | malformed h hm => rw [hm]
  · rintro rfl
    cases hdecode : Text.Utf8.decode line with
    | ok text =>
      refine .text ?_
      rw [← Text.Utf8.toByteArray_bytesOf, Text.Utf8.bytesOf, String.toList_ofList,
        ← Text.Utf8.decode_eq_ok_iff.1 hdecode]
    | error m =>
      refine .malformed ?_ hdecode
      rw [Text.Utf8.isValidUTF8_iff]
      rintro ⟨text, htext⟩
      rw [hdecode] at htext
      cases htext

variable {t : Transport}

/-- A feed that ends gives its lines one by one, and then its end again and again. -/
theorem readLines_of_feed {lines : List Line} (h : t.input.feed = ⟨lines, none⟩) (n : Nat) :
    t.readLines n =
      (lines.map (fun line => readOf [line]) ++ List.replicate n (Except.ok none)).take n := by
  induction n generalizing t lines with
  | zero => rw [readLines, List.take_zero]
  | succ n ih =>
    obtain ⟨hread, htook⟩ := t.readLine_took
    have hrest := htook.feed
    rw [h] at hread hrest
    rw [readLines, hread, ih hrest]
    cases lines with
    | nil => rfl
    | cons line lines =>
      -- One read goes to the line, so that one of the ends is not needed.
      have hlong : n ≤ (lines.map (fun line => readOf [line]) ++
          List.replicate n (Except.ok none)).length := by
        rw [List.length_append, List.length_replicate]
        omega
      rw [Feed.read_of_line rfl, List.map_cons, List.cons_append, List.take_succ_cons,
        List.replicate_succ', ← List.append_assoc, List.take_append_of_le_length hlong]
      rfl

/-- However the bytes of a stream are dealt out to the reads, a stream that does not fail gives
    its segments in their order, each as what it reads as, and a segment that is no text is taken
    like any other; after the last one there is nothing but the end, at which the stream stays. -/
theorem readLines_framed (t : Transport) (h : t.input.failure = none) :
    ∃ results, List.Forall₂ Reads (Input.framed t.input.pending) results ∧
      ∀ n, t.readLines n = (results ++ List.replicate n (Except.ok none)).take n := by
  refine ⟨(Input.framed t.input.pending).map fun line => readOf [line], ?_, fun n => ?_⟩
  · rw [List.forall₂_map_right_iff, List.forall₂_same]
    exact fun line _ => reads_iff.2 rfl
  · apply readLines_of_feed
    rw [Input.feed_of_ends h, Input.lines, Input.linesOf_eq_framed]

/-- A stream in two reads: a line that is cut in its end, a blank line, a byte that is no text, and
    a line without an end. -/
def mixed : Transport :=
  ⟨⟨[[0x61, 0x0D], [0x0D, 0x0A, 0x20, 0x0D, 0x0A, 0xFF, 0x0A, 0x62]], none⟩, .healthy, .healthy,
    #[], .silent⟩

/-- The line that is no text is reported, and the line after it is read all the same. -/
theorem readLines_framed_mixed :
    ∃ m, mixed.readLines 4 =
      [.ok (some "a"), .error (.malformed m), .ok (some "b"), .ok none] := by
  obtain ⟨results, hresults, hread⟩ := readLines_framed mixed rfl
  have hframed : Input.framed mixed.input.pending = [[0x61], [0xFF], [0x62]] := by cbv
  rw [hframed] at hresults
  obtain _ | ⟨hfirst, _ | ⟨hsecond, _ | ⟨hthird, _ | _⟩⟩⟩ := hresults
  have hfirst' : readOf [[0x61]] = .ok (some "a") := by cbv
  have hsecond' : ∃ m, readOf [[0xFF]] = .error (.malformed m) := ⟨_, by cbv⟩
  have hthird' : readOf [[0x62]] = .ok (some "b") := by cbv
  obtain ⟨m, hm⟩ := hsecond'
  refine ⟨m, ?_⟩
  rw [hread 4, reads_iff.1 hfirst, reads_iff.1 hsecond, reads_iff.1 hthird, hfirst', hm, hthird']
  rfl

end Transport

end ShardBridge
