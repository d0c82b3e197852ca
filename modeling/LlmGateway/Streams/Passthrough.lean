import LlmGateway.Library.SplitLines
import LlmGateway.Streams.Relaying

/-!
# The passthrough of an event stream

The OpenAI and the Mistral adapter take the lines of the upstream from the client library, which
breaks the body wherever `str.splitlines` does, and put each line that starts with `data: ` back
into an event. An event stream breaks its lines at CR and LF only. So an event comes through as it
is exactly when its payload has none of the other line breaks (`passthrough_iff`), all of which but
the control characters may stand in a JSON text.
-/

set_option autoImplicit false

namespace LlmGateway

open LlmGateway.Library
open LlmGateway.Library.PythonText

/-! ## Bodies -/

/-- An event of an upstream: its payload, and how its lines end. -/
structure ServerEvent where
  payload : String
  lineEnd : LineEnd

/-- A data line and a blank line. -/
def ServerEvent.chars (event : ServerEvent) : List Char :=
  dataMark ++ event.payload.toList ++ (event.lineEnd.chars ++ event.lineEnd.chars)

/-- The text of a body. -/
def serverBody (events : List ServerEvent) : List Char := events.flatMap ServerEvent.chars

section Bodies

variable {events : List ServerEvent}

/-- A body does not start with LF. -/
theorem serverBody_head (events : List ServerEvent) : (serverBody events).head? ≠ some '\n' := by
  cases events with
  | nil => decide
  | cons event rest =>
      have first : (serverBody (event :: rest)).head? = some 'd' := rfl
      rw [first]
      decide

/-- An event of one line is split into its data line and an empty one. -/
theorem splitlines_event {event : ServerEvent} (whole : Unbroken event.payload.toList)
    (rest : List ServerEvent) :
    splitlines (serverBody (event :: rest)) =
      (dataMark ++ event.payload.toList) :: [] :: splitlines (serverBody rest) := by
  have marked : Unbroken dataMark := by
    intro c member
    simp only [dataMark, List.mem_cons, List.not_mem_nil, or_false] at member
    rcases member with rfl | rfl | rfl | rfl | rfl | rfl <;> rfl
  have line : Unbroken (dataMark ++ event.payload.toList) :=
    List.forall_mem_append.mpr ⟨marked, whole⟩
  have blank := splitlines_lineEnd event.lineEnd fun _ => serverBody_head rest
  have ended := @splitlines_lineEnd event.lineEnd (event.lineEnd.chars ++ serverBody rest)
    fun same => by rw [same]; simp [LineEnd.chars]
  rw [blank] at ended
  have body : serverBody (event :: rest) = (dataMark ++ event.payload.toList) ++
      (event.lineEnd.chars ++ (event.lineEnd.chars ++ serverBody rest)) := by
    simp [serverBody, ServerEvent.chars]
  rw [body, splitlines_line line ended]

end Bodies

/-! ## Lines -/

/-- A passthrough adapter yields what `passLine` makes of each line. -/
theorem yields_passLine {adapter : Adapter} (passes : adapter ≠ .anthropic) (python : Interpreter)
    (state : AnthropicState) (lines : List UpstreamLine) :
    Relay.Yields python ⟨adapter, state, ⟨lines, .exhausted⟩⟩ (lines.filterMap passLine) .exhausted := by
  have read (line : UpstreamLine) : adapter.readLine python state line = .ok (state, passLine line) := by
    cases adapter with
    | openai | mistral => rfl
    | anthropic => exact absurd rfl passes
  induction lines with
  | nil =>
      refine .nil ?_
      cases adapter with
      | openai | mistral => rfl
      | anthropic => exact absurd rfl passes
  | cons line rest ih =>
      cases passed : passLine line with
      | none =>
          rw [List.filterMap_cons_none passed]
          exact .skip (by rw [read, passed]) ih
      | some text =>
          rw [List.filterMap_cons_some passed]
          exact .cons (by rw [read, passed]) ih

/-- A line that is an event's data line is passed on as the event. -/
theorem passLine_of_data {line : UpstreamLine} {payload : String}
    (same : line.text.toList = dataMark ++ payload.toList) :
    passLine line = some (eventLine payload) := by
  have text : line.text = "data: " ++ payload := by
    refine String.toList_injective ?_
    rw [same, String.toList_append]
    rfl
  have marked : dataMark.isPrefixOf (dataMark ++ payload.toList) = true :=
    List.isPrefixOf_iff_prefix.mpr (List.prefix_append _ _)
  rw [passLine, same, if_pos marked, text]
  rfl

/-- Only an event's data line is passed on as the event. -/
theorem data_of_passLine {line : UpstreamLine} {payload : String}
    (passed : passLine line = some (eventLine payload)) :
    line.text.toList = dataMark ++ payload.toList := by
  unfold passLine at passed
  split_ifs at passed
  have letters := congrArg String.toList (Option.some.inj passed)
  rw [eventLine, String.toList_append, String.toList_append, String.toList_append] at letters
  exact List.append_cancel_right letters

/-- The lines of unbroken events are passed on as the events. -/
theorem filterMap_passLine {events : List ServerEvent} {lines : List UpstreamLine}
    (whole : ∀ event ∈ events, Unbroken event.payload.toList)
    (split : lines.map (fun line => line.text.toList) = splitlines (serverBody events)) :
    lines.filterMap passLine = events.map fun event => eventLine event.payload := by
  induction events generalizing lines with
  | nil =>
      cases List.map_eq_nil_iff.mp split
      rfl
  | cons event rest ih =>
      obtain ⟨here, others⟩ := List.forall_mem_cons.mp whole
      rw [splitlines_event here] at split
      obtain ⟨line, more, rfl, data, split⟩ := List.map_eq_cons_iff.mp split
      obtain ⟨blank, later, rfl, empty, split⟩ := List.map_eq_cons_iff.mp split
      have dropped : passLine blank = none := by
        rw [passLine, empty]
        rfl
      rw [List.filterMap_cons_some (passLine_of_data data), List.filterMap_cons_none dropped,
        ih others split]
      rfl

/-- **Passthrough**: from the lines of a body the adapter yields the events of the body, each once
and in order, exactly when no payload has a character that breaks a line. -/
theorem passthrough_iff {adapter : Adapter} (passes : adapter ≠ .anthropic) (python : Interpreter)
    (model : String) {events : List ServerEvent} {lines : List UpstreamLine}
    (split : lines.map (fun line => line.text.toList) = splitlines (serverBody events)) :
    Relay.Yields python (.start adapter model ⟨lines, .exhausted⟩)
        (events.map fun event => eventLine event.payload) .exhausted ↔
      ∀ event ∈ events, Unbroken event.payload.toList := by
  have yields := yields_passLine passes python { model := .str model } lines
  constructor
  · intro same event member
    obtain ⟨events_eq, -⟩ := yields.unique same
    have yielded : eventLine event.payload ∈ lines.filterMap passLine := by
      rw [events_eq]
      exact List.mem_map_of_mem member
    obtain ⟨line, there, passed⟩ := List.mem_filterMap.mp yielded
    have listed : line.text.toList ∈ splitlines (serverBody events) := by
      rw [← split]
      exact List.mem_map_of_mem there
    have unbroken := unbroken_of_mem_splitlines listed
    rw [data_of_passLine passed] at unbroken
    exact (List.forall_mem_append.mp unbroken).2
  · intro whole
    rw [← filterMap_passLine whole split]
    exact yields

/-- A JSON text with an unescaped line separator in a string. -/
def separatedEvents : List ServerEvent := [⟨"\x7b\"a\":\"x\u2028y\"\x7d", .lf⟩]

/-- The lines of its body. -/
def separatedLines : List UpstreamLine :=
  [⟨"data: \x7b\"a\":\"x", 0⟩, ⟨"y\"\x7d", 0⟩, ⟨"", 0⟩]

theorem split_separated :
    separatedLines.map (fun line => line.text.toList) = splitlines (serverBody separatedEvents) := by
  decide +kernel

/-- The event is cut at the separator. -/
theorem separator_cuts :
    separatedLines.map (fun line => line.text.toList) = splitlines (serverBody separatedEvents) ∧
      ¬ Relay.Yields .standard (.start .openai "gpt-4o" ⟨separatedLines, .exhausted⟩)
        (separatedEvents.map fun event => eventLine event.payload) .exhausted := by
  refine ⟨split_separated, fun same => ?_⟩
  have passes : Adapter.openai ≠ .anthropic := by decide
  have yields := yields_passLine passes .standard { model := .str "gpt-4o" } separatedLines
  have cut : separatedLines.filterMap passLine ≠
      separatedEvents.map fun event => eventLine event.payload := by decide +kernel
  exact cut (yields.unique same).1

/-- Two texts without one, under different line ends. -/
def wholeEvents : List ServerEvent := [⟨"\x7b\"a\":\"x\"\x7d", .lf⟩, ⟨"[DONE]", .crlf⟩]

/-- The lines of their body. -/
def wholeLines : List UpstreamLine :=
  [⟨"data: \x7b\"a\":\"x\"\x7d", 0⟩, ⟨"", 0⟩, ⟨"data: [DONE]", 0⟩, ⟨"", 0⟩]

/-- They come through as they are. -/
theorem passthrough_iff_whole :
    Relay.Yields .standard (.start .openai "gpt-4o" ⟨wholeLines, .exhausted⟩)
      (wholeEvents.map fun event => eventLine event.payload) .exhausted := by
  have split : wholeLines.map (fun line => line.text.toList) = splitlines (serverBody wholeEvents) := by
    decide +kernel
  have unbroken : wholeEvents.all (fun event =>
      event.payload.toList.all fun c => !isLineBreak c) = true := by decide +kernel
  refine (passthrough_iff (by decide) .standard "gpt-4o" split).mpr fun event member c letter => ?_
  simpa using List.all_eq_true.mp (List.all_eq_true.mp unbroken event member) c letter

end LlmGateway
