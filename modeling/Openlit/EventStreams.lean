import Openlit.ServerEvents

/-!
The stream readers of the Go SDK (`openai/streaming.go` and
`anthropic/streaming.go`). They know a `data` line only by `data: ` and take
each such line as an event of its own, and the end of the body is a clean end
for them, so `Recv` gives the events of a stream exactly if its lines with the
space decode as its events do, and a cut stream fails only if the cut shows.
-/
namespace Openlit.EventStreams
open ServerEvents

/-! ### The readers -/

def dataPrefix : Bytes := ['d', 'a', 't', 'a', ':', ' '].map Char.toUInt8
def eventPrefix : Bytes := ['e', 'v', 'e', 'n', 't', ':', ' '].map Char.toUInt8
/-- `[DONE]`. -/
def done : Bytes := ['[', 'D', 'O', 'N', 'E', ']'].map Char.toUInt8

inductive StreamError
  | parse
  | scanner (error : ScanError)

/-- What the reader has sent when it closes the channel, and `stream.err`. -/
structure Stream (Event : Type) where
  reader : List Event
  err : Option StreamError

/-- What a call of `Recv` returns. -/
inductive Received (Event : Type)
  | event (event : Event)
  | failed (err : StreamError)
  | eof

section
variable {Event : Type}

def Stream.sent (stream : Stream Event) (event : Event) : Stream Event := { stream with reader := event :: stream.reader }
@[simp] theorem Stream.sent_reader (stream : Stream Event) (event : Event) : (stream.sent event).reader = event :: stream.reader := rfl
@[simp] theorem Stream.sent_err (stream : Stream Event) (event : Event) : (stream.sent event).err = stream.err := rfl
/-- The call of `Recv` after some earlier ones. -/
def Stream.recv (stream : Stream Event) (earlier : Nat) : Received Event :=
  match stream.reader[earlier]? with
  | some event => .event event
  | none =>
    match stream.err with
    | some err => .failed err
    | none => .eof

variable (decode : Bytes → Option Event)

/-- The loop of OpenAI's `readStream`, with the error that `scanner.Err` has at the end and at a `break`. -/
def OpenAI.readLines (err errAtBreak : Option StreamError) : List Bytes → Stream Event
  | [] => { reader := [], err := err }
  | line :: rest =>
    if line = [] ∨ [colon] <+: line then readLines err errAtBreak rest
    else if ¬ dataPrefix <+: line then readLines err errAtBreak rest
    else
      let data := line.drop dataPrefix.length
      if data = done then { reader := [], err := errAtBreak }
      else
        match decode data with
        | none => { reader := [], err := some .parse }
        | some chunk => (readLines err errAtBreak rest).sent chunk
def OpenAI.readStream (scanned : Scanned) : Stream Event :=
  readLines decode (scanned.error.map .scanner) (scanned.errorKnown.map .scanner) scanned.lines

/-- The end of the body of the loop of Anthropic's `readStream`, before what follows it. -/
def Anthropic.send (eventData : Bytes) (next : Stream Event) : Stream Event :=
  if eventData = [] then next
  else
    match decode eventData with
    | none => { reader := [], err := some .parse }
    | some event => next.sent event
/-- The loop of Anthropic's `readStream`. It scans again when there was no line after an `event: `. -/
def Anthropic.readLines (err : Option StreamError) (leftover : List Bytes) : List Bytes → Stream Event
  | [] => { reader := [], err := err }
  | line :: rest =>
    if line = [] ∨ [colon] <+: line then readLines err leftover rest
    else if ¬ eventPrefix <+: line ∧ ¬ dataPrefix <+: line then readLines err leftover rest
    else if eventPrefix <+: line then
      match rest with
      | [] => readLines err [] leftover
      | dataLine :: rest =>
        let eventData := if dataPrefix <+: dataLine then dataLine.drop dataPrefix.length else []
        send decode eventData (readLines err leftover rest)
    else send decode (line.drop dataPrefix.length) (readLines err leftover rest)
termination_by lines => leftover.length + lines.length
def Anthropic.readStream (scanned : Scanned) : Stream Event :=
  readLines decode (scanned.error.map .scanner) scanned.leftover scanned.lines

/-! ### The lines that count -/

/-- What stands after `data: `. -/
def spacedData (line : Bytes) : Option Bytes := if dataPrefix <+: line then some (line.drop dataPrefix.length) else none

/-- Data decoded one by one, up to the first that is malformed. -/
def decoded (err : Option StreamError) : List Bytes → Stream Event
  | [] => { reader := [], err := err }
  | data :: rest =>
    match decode data with
    | none => { reader := [], err := some .parse }
    | some event => (decoded err rest).sent event

/-- A line with the prefix is no empty line, no comment and no `event: ` line. -/
theorem dataPrefix_line {line : Bytes} (spaced : dataPrefix <+: line) :
    line ≠ [] ∧ ¬ [colon] <+: line ∧ ¬ eventPrefix <+: line := by
  obtain ⟨rest, rfl⟩ := spaced
  have colonOther : colon ≠ 'd'.toUInt8 := by decide
  have eventOther : 'e'.toUInt8 ≠ 'd'.toUInt8 := by decide
  simp [dataPrefix, eventPrefix, colonOther, eventOther]
theorem eventPrefix_line {line : Bytes} (event : eventPrefix <+: line) : line ≠ [] ∧ ¬ [colon] <+: line := by
  obtain ⟨rest, rfl⟩ := event
  have colonOther : colon ≠ 'e'.toUInt8 := by decide
  simp [eventPrefix, colonOther]

theorem openAI_readLines (err errAtBreak : Option StreamError) (lines : List Bytes) :
    OpenAI.readLines decode err errAtBreak lines =
      decoded decode (if done ∈ lines.filterMap spacedData then errAtBreak else err)
        ((lines.filterMap spacedData).takeWhile (· ≠ done)) := by
  induction lines with
  | nil => simp [OpenAI.readLines, decoded]
  | cons line lines ih =>
    rw [OpenAI.readLines]
    by_cases spaced : dataPrefix <+: line
    · obtain ⟨nonempty, noComment, -⟩ := dataPrefix_line spaced
      have data : spacedData line = some (line.drop dataPrefix.length) := if_pos spaced
      rw [if_neg (by simp [nonempty, noComment]), if_neg (by simpa using spaced), List.filterMap_cons_some data]
      by_cases last : line.drop dataPrefix.length = done
      · simp [last, decoded]
      · simp only [last, if_false, ih, List.mem_cons, Ne.symm last, false_or]
        rw [List.takeWhile_cons_of_pos (by simpa using last), decoded]
    · have data : spacedData line = none := if_neg spaced
      rw [List.filterMap_cons_none data, ← ih]
      simp [spaced]
theorem anthropic_readLines (err : Option StreamError) (lines : List Bytes) :
    Anthropic.readLines decode err [] lines = decoded decode err ((lines.filterMap spacedData).filter (· ≠ [])) := by
  have sending (eventData : Bytes) (rest : List Bytes) : Anthropic.send decode eventData (decoded decode err (rest.filter (· ≠ []))) =
      decoded decode err ((eventData :: rest).filter (· ≠ [])) := by
    by_cases empty : eventData = []
    · simp [Anthropic.send, empty]
    · simp [Anthropic.send, empty, decoded]
  -- The loop takes one line or two, so the induction is on the number of lines.
  induction count : lines.length using Nat.strong_induction_on generalizing lines with
  | _ n ih =>
    cases lines with
    | nil => simp [Anthropic.readLines, decoded]
    | cons line rest =>
      have next := ih rest.length (by simp [← count]) rest rfl
      by_cases spaced : dataPrefix <+: line
      · obtain ⟨nonempty, noComment, noEvent⟩ := dataPrefix_line spaced
        have data : spacedData line = some (line.drop dataPrefix.length) := if_pos spaced
        rw [List.filterMap_cons_some data, ← sending, ← next]
        cases rest <;> simp [Anthropic.readLines, nonempty, noComment, noEvent, spaced]
      · have data : spacedData line = none := if_neg spaced
        rw [List.filterMap_cons_none data]
        by_cases event : eventPrefix <+: line
        · obtain ⟨nonempty, noComment⟩ := eventPrefix_line event
          cases rest with
          | nil => simp [Anthropic.readLines, nonempty, noComment, event, decoded]
          | cons dataLine rest =>
            have shorter : rest.length < n := by
              rw [← count]
              simp only [List.length_cons]
              omega
            have after := ih rest.length shorter rest rfl
            by_cases next : dataPrefix <+: dataLine
            · have data : spacedData dataLine = some (dataLine.drop dataPrefix.length) := if_pos next
              rw [List.filterMap_cons_some data, ← sending, ← after]
              simp [Anthropic.readLines, nonempty, noComment, event, next]
            · have data : spacedData dataLine = none := if_neg next
              rw [List.filterMap_cons_none data, ← after]
              simp [Anthropic.readLines, Anthropic.send, nonempty, noComment, event, next]
        · rw [← next]
          cases rest <;> simp [Anthropic.readLines, event, spaced]

/-- An error of the scanner is not lost. -/
theorem anthropic_err {err : Option StreamError} (scanError : err ≠ none) (leftover lines : List Bytes) :
    (Anthropic.readLines decode err leftover lines).err ≠ none := by
  have sending {next : Stream Event} (eventData : Bytes) (kept : next.err ≠ none) : (Anthropic.send decode eventData next).err ≠ none := by
    rw [Anthropic.send]
    by_cases empty : eventData = []
    · simpa [empty] using kept
    · cases event : decode eventData
      · simp [empty]
      · simpa [empty] using kept
  fun_induction Anthropic.readLines with
  | case1 => exact scanError
  | case2 _ _ _ _ ih => exact ih
  | case3 _ _ _ _ _ ih => exact ih
  | case4 _ _ _ _ _ ih => exact ih
  | case5 leftover line _ _ _ _ dataLine eventData ih => exact sending _ ih
  | case6 _ _ _ _ _ _ ih => exact sending _ ih

/-! ### What `Recv` gives -/

/-- The calls give the events in order and then `io.EOF`. -/
def Stream.Yields (stream : Stream Event) (events : List Event) : Prop :=
  ∀ earlier, stream.recv earlier = match events[earlier]? with | some event => .event event | none => .eof
/-- A call gives another error than `io.EOF`. -/
def Stream.Fails (stream : Stream Event) : Prop := ∃ earlier err, stream.recv earlier = .failed err

theorem yields_iff (stream : Stream Event) (events : List Event) :
    stream.Yields events ↔ stream.reader = events ∧ stream.err = none := by
  constructor
  · intro yields
    have each (k : Nat) : stream.reader[k]? = events[k]? := by
      have call := yields k
      rw [Stream.recv] at call
      cases sent : stream.reader[k]? <;> cases event : events[k]? <;> cases err : stream.err <;> simp_all
    have same := List.ext_getElem? each
    refine ⟨same, ?_⟩
    have last := yields events.length
    cases err : stream.err with
    | none => rfl
    | some error => simp [Stream.recv, same, err] at last
  · rintro ⟨rfl, noError⟩ k
    rw [Stream.recv, noError]
theorem fails_iff (stream : Stream Event) : stream.Fails ↔ stream.err ≠ none := by
  constructor
  · rintro ⟨k, error, call⟩ none
    rw [Stream.recv, none] at call
    cases sent : stream.reader[k]? <;> simp [sent] at call
  · intro failed
    obtain ⟨error, is⟩ := Option.ne_none_iff_exists'.mp failed
    exact ⟨stream.reader.length, error, by simp [Stream.recv, is]⟩

theorem decoded_err (err : Option StreamError) (data : List Bytes) :
    (decoded decode err data).err ≠ none ↔ err ≠ none ∨ ∃ item ∈ data, decode item = none := by
  induction data with
  | nil => simp [decoded]
  | cons item data ih =>
    rw [decoded]
    cases event : decode item with
    | none => simp [event]
    | some event => simpa [event] using ih
theorem decoded_yields (err : Option StreamError) (data : List Bytes) (events : List Event) :
    (decoded decode err data).Yields events ↔ err = none ∧ data.map decode = events.map some := by
  rw [yields_iff]
  induction data generalizing events with
  | nil => cases events <;> simp [decoded]
  | cons item data ih =>
    rw [decoded]
    cases event : decode item with
    | none => cases events <;> simp [event]
    | some event' =>
      cases events with
      | nil => simp
      | cons first events =>
        have rest := ih events
        simp only [Stream.sent_reader, Stream.sent_err, List.cons.injEq, List.map_cons, event, Option.some.injEq]
        tauto

/-! ### Encodings -/

inductive Provider
  | openAI
  | anthropic

def Provider.readStream : Provider → Bytes → End → Stream Event
  | .openAI, body, finish => OpenAI.readStream decode (scanner body finish)
  | .anthropic, body, finish => Anthropic.readStream decode (scanner body finish)

variable (isStop : Event → Bool)

/-- The lines are an encoding of the events: what they dispatch decodes to these, and the terminator, which is
    `[DONE]` or the event `message_stop`, comes last. -/
def Provider.Carries : Provider → List Line → List Event → Prop
  | .openAI, lines, events =>
    ∃ data, payloads (lines.map Line.text) = data ++ [done] ∧ done ∉ data ∧ data.map decode = events.map some
  | .anthropic, lines, events =>
    (payloads (lines.map Line.text)).map decode = events.map some ∧
      ∃ earlier stop, events = earlier ++ [stop] ∧ isStop stop ∧ ∀ event ∈ earlier, ¬ isStop event
/-- The terminator is there, also if the line after it is not. -/
def Provider.Terminated : Provider → Bytes → Prop
  | .openAI, cut => done ∈ payloads ((pieces cut).map dropCR ++ [[]])
  | .anthropic, cut => ∃ data ∈ payloads ((pieces cut).map dropCR ++ [[]]), ∃ event, decode data = some event ∧ isStop event

/-- The lines with `data: `, each taken alone, decode as what is dispatched, up to `[DONE]`, and none is too long.
    Anthropic's reader passes over the empty ones and does not stop. -/
def Provider.Spaced : Provider → List Line → Prop
  | .openAI, lines =>
    let data := ((lines.takeWhile fun line => fits line.raw).map Line.text).filterMap spacedData
    (data.takeWhile (· ≠ done)).map decode = ((payloads (lines.map Line.text)).takeWhile (· ≠ done)).map decode ∧
      (done ∈ data ∨ ∀ line ∈ lines, fits line.raw)
  | .anthropic, lines =>
    (((lines.map Line.text).filterMap spacedData).filter (· ≠ [])).map decode = (payloads (lines.map Line.text)).map decode ∧
      ∀ line ∈ lines, fits line.raw
/-- Reading fails, or a line is too long, or what a line with `data: ` has does not decode. After `[DONE]` only an error
    that is known by then counts. -/
def Provider.CutShows : Provider → Bytes → End → Prop
  | .openAI, cut, finish =>
    let data := (((pieces cut).takeWhile fits).map dropCR).filterMap spacedData
    (∃ item ∈ data.takeWhile (· ≠ done), decode item = none) ∨
      if done ∈ data then finish = .failed true ∧ ∀ piece ∈ pieces cut, fits piece
      else finish ≠ .eof ∨ ∃ piece ∈ pieces cut, ¬ fits piece
  | .anthropic, cut, finish =>
    (∃ item ∈ (((pieces cut).takeWhile fits).map dropCR).filterMap spacedData, item ≠ [] ∧ decode item = none) ∨
      finish ≠ .eof ∨ ∃ piece ∈ pieces cut, ¬ fits piece

theorem openAI_yields_iff (lines : List Line) {events : List Event} (carries : Provider.openAI.Carries decode isStop lines events) :
    (Provider.openAI.readStream decode (encode lines) .eof).Yields events ↔ Provider.openAI.Spaced decode lines := by
  obtain ⟨data, dispatches, noTerminator, carried⟩ := carries
  have upTo : (payloads (lines.map Line.text)).takeWhile (· ≠ done) = data := by
    rw [dispatches, List.takeWhile_append_of_pos]
    · simp
    · intro item member
      simpa using ne_of_mem_of_not_mem member noTerminator
  have noError : (scanner (encode lines) .eof).error = none ↔ ∀ line ∈ lines, fits line.raw := by
    simp [scanner_error_none, pieces_encode]
  have noKnown : (scanner (encode lines) .eof).errorKnown = none := by
    rw [scanner]
    cases (pieces (encode lines)).dropWhile fits <;> rfl
  simp only [Provider.readStream, OpenAI.readStream, openAI_readLines, decoded_yields, scanner_encode, Provider.Spaced, upTo, carried]
  generalize ((lines.takeWhile fun line => fits line.raw).map Line.text).filterMap spacedData = spaced
  by_cases stopped : done ∈ spaced
  · rw [if_pos stopped, noKnown]
    simp [stopped]
  · rw [if_neg stopped, Option.map_eq_none_iff, noError]
    simp [stopped, and_comm]
theorem anthropic_yields_iff (lines : List Line) {events : List Event}
    (carries : Provider.anthropic.Carries decode isStop lines events) :
    (Provider.anthropic.readStream decode (encode lines) .eof).Yields events ↔ Provider.anthropic.Spaced decode lines := by
  obtain ⟨carried, -⟩ := carries
  have noError : (scanner (encode lines) .eof).error = none ↔ ∀ line ∈ lines, fits line.raw := by
    simp [scanner_error_none, pieces_encode]
  rw [Provider.readStream, Anthropic.readStream, Provider.Spaced, ← noError, carried]
  by_cases error : (scanner (encode lines) .eof).error = none
  · have all := List.takeWhile_eq_self_iff.mpr (noError.mp error)
    rw [scanner_leftover error, error, anthropic_readLines, decoded_yields, scanner_encode, all]
    simp
  · refine iff_of_false ?_ (fun both => error both.2)
    rw [yields_iff]
    rintro ⟨-, clean⟩
    exact anthropic_err decode (by simpa using error) _ _ clean

theorem openAI_fails_iff (cut : Bytes) (finish : End) :
    (Provider.openAI.readStream decode cut finish).Fails ↔ Provider.openAI.CutShows decode cut finish := by
  have error : (scanner cut finish).error ≠ none ↔ finish ≠ .eof ∨ ∃ piece ∈ pieces cut, ¬ fits piece := by
    rw [ne_eq, scanner_error_none]
    simp only [not_and_or, not_forall, exists_prop]
  have known : (scanner cut finish).errorKnown ≠ none ↔ finish = .failed true ∧ ∀ piece ∈ pieces cut, fits piece := by
    have allFit := List.dropWhile_eq_nil_iff (p := fits) (l := pieces cut)
    rw [scanner]
    cases long : (pieces cut).dropWhile fits with
    | nil => simpa using fun _ => allFit.mp long
    | cons piece rest => simpa [long] using fun _ => allFit
  rw [fails_iff, Provider.readStream, OpenAI.readStream, openAI_readLines, decoded_err, scanner_lines, Provider.CutShows, ← error, ← known]
  generalize (((pieces cut).takeWhile fits).map dropCR).filterMap spacedData = spaced
  by_cases stopped : done ∈ spaced
  · simp only [stopped, if_true, ne_eq, Option.map_eq_none_iff]
    exact or_comm
  · simp only [stopped, if_false, ne_eq, Option.map_eq_none_iff]
    exact or_comm
theorem anthropic_fails_iff (cut : Bytes) (finish : End) :
    (Provider.anthropic.readStream decode cut finish).Fails ↔ Provider.anthropic.CutShows decode cut finish := by
  have error : (scanner cut finish).error ≠ none ↔ finish ≠ .eof ∨ ∃ piece ∈ pieces cut, ¬ fits piece := by
    rw [ne_eq, scanner_error_none]
    simp only [not_and_or, not_forall, exists_prop]
  rw [fails_iff, Provider.readStream, Anthropic.readStream, Provider.CutShows, ← error]
  by_cases clean : (scanner cut finish).error = none
  · rw [scanner_leftover clean, clean, anthropic_readLines, decoded_err, scanner_lines]
    simp [and_assoc]
  · exact iff_of_true (anthropic_err decode (by simpa using clean) _ _) (.inr clean)

/-! ### Lines as the readers expect them -/

/-- A line with `data: ` and an empty one. -/
def standardLines (item : Line) : List Line :=
  [{ text := dataPrefix ++ item.text
     crlf := item.crlf
     noLineFeed := by simpa using ⟨by decide, item.noLineFeed⟩
     noCarriageReturn := by simpa using ⟨by decide, item.noCarriageReturn⟩ }, { text := [] }]
/-- Each text is the data of an event. -/
def standard (data : List Line) : List Line := data.flatMap standardLines

theorem dataValue_spaced (value : Bytes) : dataValue (dataPrefix ++ value) = some value := by
  have isData : dataPrefix ++ value = (dataField ++ [colon]) ++ (space :: value) := rfl
  have other : dataPrefix ++ value ≠ dataField := by
    intro same
    have lengths := congrArg List.length same
    simp [dataPrefix, dataField] at lengths
  rw [dataValue, if_neg other, isData, if_pos (by simp)]
  simp [dataField]
theorem payloads_standard (data : List Line) : payloads ((standard data).map Line.text) = data.map Line.text := by
  induction data with
  | nil => rfl
  | cons item data ih =>
    have nonempty : dataPrefix ++ item.text ≠ [] := by simp [dataPrefix]
    rw [payloads] at ih ⊢
    simpa [standard, standardLines, dispatched, nonempty, dataValue_spaced] using ih
theorem spaced_standard (p : Provider) {data : List Line} (nonempty : ∀ item ∈ data, item.text ≠ [])
    (short : ∀ line ∈ standard data, fits line.raw) : p.Spaced decode (standard data) := by
  have spaced : ((standard data).map Line.text).filterMap spacedData = data.map Line.text := by
    clear nonempty short
    induction data with
    | nil => rfl
    | cons item data ih =>
      have blank : spacedData [] = none := if_neg (by simp [dataPrefix])
      have value : spacedData (dataPrefix ++ item.text) = some item.text := by simp [spacedData]
      simp only [standard, List.flatMap_cons, standardLines, List.cons_append, List.nil_append, List.map_cons,
        List.filterMap_cons_some value, List.filterMap_cons_none blank] at ih ⊢
      rw [ih]
  cases p with
  | openAI =>
    have all : (standard data).takeWhile (fun line => fits line.raw) = standard data := List.takeWhile_eq_self_iff.mpr short
    simp only [Provider.Spaced, all, spaced, payloads_standard, true_and]
    exact .inr short
  | anthropic =>
    have all : (data.map Line.text).filter (· ≠ []) = data.map Line.text := by simpa using nonempty
    exact ⟨by rw [spaced, all, payloads_standard], short⟩

/-- The events of an encoding are received exactly if its lines with `data: ` decode as its events do. From one that is
    cut before the terminator, another error than `io.EOF` is received exactly if the reading shows that it is cut. -/
theorem recv_iff (p : Provider) {lines : List Line} {events : List Event} (carries : p.Carries decode isStop lines events) :
    ((p.readStream decode (encode lines) .eof).Yields events ↔ p.Spaced decode lines) ∧
      ∀ cut, cut <+: encode lines → ¬ p.Terminated decode isStop cut →
        ∀ finish, (p.readStream decode cut finish).Fails ↔ p.CutShows decode cut finish := by
  cases p with
  | openAI => exact ⟨openAI_yields_iff decode isStop lines carries, fun cut _ _ finish => openAI_fails_iff decode cut finish⟩
  | anthropic => exact ⟨anthropic_yields_iff decode isStop lines carries, fun cut _ _ finish => anthropic_fails_iff decode cut finish⟩

end

/-- `json.Unmarshal` on `{}` and `[DONE]`, with one chunk. -/
def unmarshal (data : Bytes) : Option Unit := if data = [0x7b, 0x7d] then some () else none
/-- `data: {}` and `data: [DONE]`, with empty lines. -/
def emptyChunk : List Line := standard [{ text := [0x7b, 0x7d] }, { text := done }]
/-- The object without the space. -/
def unspacedChunk : List Line := { text := dataField ++ [colon, 0x7b, 0x7d] } :: emptyChunk.tail

theorem emptyChunk_carries : Provider.openAI.Carries unmarshal (fun _ => false) emptyChunk [()] :=
  ⟨[[0x7b, 0x7d]], payloads_standard _, by decide, by decide⟩
theorem emptyChunk_cut : encode (emptyChunk.take 2) <+: encode emptyChunk ∧
    ¬ Provider.openAI.Terminated unmarshal (fun _ => false) (encode (emptyChunk.take 2)) := by
  rw [Provider.Terminated]
  decide

theorem chunk_received : (Provider.openAI.readStream unmarshal (encode emptyChunk) .eof).Yields [()] ∧
    (Provider.openAI.readStream unmarshal (encode (emptyChunk.take 2)) (.failed false)).Fails := by
  have general := recv_iff unmarshal (fun _ => false) .openAI emptyChunk_carries
  refine ⟨general.1.mpr (spaced_standard unmarshal .openAI (by decide) (by decide)), ?_⟩
  refine (general.2 _ emptyChunk_cut.1 emptyChunk_cut.2 _).mpr ?_
  right
  decide
/-- The chunk without the space is dropped, and a stream that ends after a chunk has ended for the reader. -/
theorem chunk_dropped :
    (¬ ∀ lines events, Provider.openAI.Carries unmarshal (fun _ => false) lines events →
      (Provider.openAI.readStream unmarshal (encode lines) .eof).Yields events) ∧
    ¬ ∀ lines events, Provider.openAI.Carries unmarshal (fun _ => false) lines events →
      ∀ cut, cut <+: encode lines → ¬ Provider.openAI.Terminated unmarshal (fun _ => false) cut →
        ∀ finish, (Provider.openAI.readStream unmarshal cut finish).Fails := by
  constructor
  · intro all
    have yields := all unspacedChunk [()] ⟨[[0x7b, 0x7d]], by decide, by decide, by decide⟩ 0
    have dropped : (Provider.openAI.readStream unmarshal (encode unspacedChunk) .eof).reader = [] := by decide
    have noError : (Provider.openAI.readStream unmarshal (encode unspacedChunk) .eof).err = none := by decide
    simp [Stream.recv, dropped, noError] at yields
  · intro all
    have fails := all emptyChunk [()] emptyChunk_carries _ emptyChunk_cut.1 emptyChunk_cut.2 .eof
    have none : (Provider.openAI.readStream unmarshal (encode (emptyChunk.take 2)) .eof).err = none := by decide
    exact (fails_iff _).mp fails none

end Openlit.EventStreams
