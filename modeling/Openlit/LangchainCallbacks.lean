import Mathlib.Logic.Function.Basic

/-!
The LangChain callback handler of the Python SDK (`langchain/__init__.py`): the
spans it starts and ends, the runs it keeps and skips, and the flag by which the
instrumentations of providers leave a call to a framework. What is computed from
inputs and responses is left out, except that it may raise, which every callback
swallows. All callbacks come in one execution context.
-/
namespace Openlit.LangchainCallbacks

/-! ### Spans -/

inductive Status where
  | ok
  | error (description : String)
  deriving DecidableEq, Repr
/-- What is done to a span: attributes, a status, and its end. -/
inductive SpanCall where
  | setAttribute
  | setStatus (status : Status)
  | finish
  deriving DecidableEq, Repr
/-- A span with the run it was started for, and all that was done to it. -/
structure Span (Run : Type) where
  run : Run
  parent : Option Nat
  calls : List SpanCall := []
  deriving DecidableEq, Repr
/-- What is kept of a run: its span, its children, and what the flag and the attached span were before, which the tokens restore. -/
structure SpanHolder (Run : Type) where
  span : Nat
  token : Option (Bool × Option Nat) := none
  children : List Run := []
  deriving DecidableEq, Repr

/-- The handler with all spans that it has started, and the two context variables. -/
structure Handler (Run : Type) where
  started : List (Span Run) := []
  spans : Run → Option (SpanHolder Run) := fun _ => none
  skippedRuns : List (Run × Option Run) := []
  frameworkLlmActive : Bool := false
  context : Option Nat := none

variable {Run : Type} [DecidableEq Run]

/-- Something is done to a span. -/
def Handler.record (handler : Handler Run) (span : Nat) (call : SpanCall) : Handler Run :=
  { handler with started := handler.started.modify span fun s => { s with calls := s.calls ++ [call] } }
/-- The parent after the skipped ones, each of which is visited once. There are at most as many as the last argument. -/
def resolveParentRunId (skipped : List (Run × Option Run)) (parent : Option Run) : Nat → Option Run
  | 0 => parent
  | visits + 1 =>
    match parent with
    | none => none
    | some run =>
      match skipped.lookup run with
      | none => some run
      | some next => resolveParentRunId (skipped.filter (·.1 ≠ run)) next visits
def Handler.resolveParent (handler : Handler Run) (parent : Option Run) : Option Run :=
  resolveParentRunId handler.skippedRuns parent handler.skippedRuns.length
/-- `_create_span`. Without a parent that is kept, a span belongs under the one that is attached. -/
def Handler.createSpan (handler : Handler Run) (run : Run) (parent : Option Run) : Handler Run :=
  let parent := handler.resolveParent parent
  let parentSpan := (parent.bind handler.spans).elim handler.context fun holder => some holder.span
  let spans := Function.update handler.spans run (some { span := handler.started.length })
  { handler with
    started := handler.started ++ [{ run, parent := parentSpan }]
    spans :=
      match parent with
      | none => spans
      | some parent =>
        match spans parent with
        | none => spans
        | some holder => Function.update spans parent (some { holder with children := holder.children ++ [run] }) }

def Handler.hasEnded (handler : Handler Run) (span : Nat) : Bool :=
  (handler.started[span]?).any (·.calls.contains .finish)
/-- The end of a child that is still there. -/
def Handler.endChild (handler : Handler Run) (child : Run) : Handler Run :=
  match handler.spans child with
  | none => handler
  | some holder => if handler.hasEnded holder.span then handler else handler.record holder.span .finish
/-- The status of a run by what it failed with, if with anything. An empty text counts as nothing. -/
def statusOf (error : Option String) : Status :=
  match error with
  | some description => if description = "" then .ok else .error description
  | none => .ok
/-- `_end_span`. -/
def Handler.endSpan (handler : Handler Run) (run : Run) (error : Option String) : Handler Run :=
  match handler.spans run with
  | none => handler
  | some holder =>
    let handler := holder.children.foldl Handler.endChild handler
    let handler := (handler.record holder.span (.setStatus (statusOf error))).record holder.span .finish
    { handler with spans := Function.update handler.spans run none }

/-! ### Starts -/

/-- Where a callback raises that starts a run: before there is a span, or with the span there. -/
inductive StartFailure where
  | beforeSpan
  | afterSpan
  deriving DecidableEq, Repr
inductive Kind where
  | chain
  | llm
  | chatModel
  | tool
  | retriever
  deriving DecidableEq, Repr
/-- The start of a run. The last three say what a chain is, and whether the wrapper of LangGraph is active. -/
structure Start (Run : Type) where
  kind : Kind
  run : Run
  parent : Option Run := none
  failure : Option StartFailure := none
  agent : Bool := false
  internal : Bool := false
  langgraph : Bool := false
  deriving DecidableEq, Repr

/-- The attributes of a new span. -/
def Handler.describe (handler : Handler Run) (run : Run) : Handler Run :=
  match handler.spans run with
  | none => handler
  | some holder => handler.record holder.span .setAttribute
/-- A run gets a span, which is described unless that fails. -/
def Handler.startSpan (handler : Handler Run) (start : Start Run) : Handler Run :=
  match start.failure with
  | some .beforeSpan => handler
  | some .afterSpan => handler.createSpan start.run start.parent
  | none => (handler.createSpan start.run start.parent).describe start.run
/-- A chain that has no span of its own. -/
def skips (start : Start Run) : Bool :=
  !start.agent && (start.internal || (start.langgraph && start.parent.isNone) || start.parent.isSome)
def onChainStart (handler : Handler Run) (start : Start Run) : Handler Run :=
  if start.failure = some .beforeSpan then handler
  else if skips start then { handler with skippedRuns := (start.run, start.parent) :: handler.skippedRuns.filter (·.1 ≠ start.run) }
  else handler.startSpan start
/-- The flag is set and the span attached, and the tokens are kept with the run. -/
def Handler.attach (handler : Handler Run) (run : Run) : Handler Run :=
  match handler.spans run with
  | none => handler
  | some holder =>
    { handler with
      spans := Function.update handler.spans run (some { holder with token := some (handler.frameworkLlmActive, handler.context) })
      frameworkLlmActive := true
      context := some holder.span }
/-- The start of a call of a model. -/
def Handler.startModel (handler : Handler Run) (start : Start Run) : Handler Run :=
  match start.failure with
  | some .beforeSpan => handler
  | some .afterSpan => (handler.createSpan start.run start.parent).attach start.run
  | none => ((handler.createSpan start.run start.parent).attach start.run).describe start.run
def onLlmStart (handler : Handler Run) (start : Start Run) : Handler Run := handler.startModel start
def onChatModelStart (handler : Handler Run) (start : Start Run) : Handler Run := handler.startModel start
def onToolStart (handler : Handler Run) (start : Start Run) : Handler Run := handler.startSpan start
def onRetrieverStart (handler : Handler Run) (start : Start Run) : Handler Run := handler.startSpan start

/-! ### Ends and errors -/

/-- The end of a run, and whether its callback raises on the way to the end of the span. -/
structure Finish (Run : Type) where
  kind : Kind
  run : Run
  error : Option String := none
  raises : Bool := false
  deriving DecidableEq, Repr

/-- The end of a run, with its attributes and then the end of its span. -/
def Handler.finishRun (handler : Handler Run) (run : Run) (raises : Bool) : Handler Run :=
  match handler.spans run with
  | none => handler
  | some holder =>
    let handler := handler.record holder.span .setAttribute
    if raises then handler else handler.endSpan run none
/-- The failure of a run. The text of the error is the first that may raise. -/
def Handler.failRun (handler : Handler Run) (run : Run) (error : String) (raises : Bool) : Handler Run :=
  match handler.spans run with
  | none => handler
  | some holder => if raises then handler else (handler.record holder.span .setAttribute).endSpan run (some error)
def Handler.popSkipped (handler : Handler Run) (run : Run) : Handler Run :=
  { handler with skippedRuns := handler.skippedRuns.filter (·.1 ≠ run) }
def onChainEnd (handler : Handler Run) (run : Run) (raises : Bool) : Handler Run := (handler.popSkipped run).finishRun run raises
def onChainError (handler : Handler Run) (run : Run) (error : String) (raises : Bool) : Handler Run :=
  (handler.popSkipped run).failRun run error raises
def onToolEnd (handler : Handler Run) (run : Run) (raises : Bool) : Handler Run := handler.finishRun run raises
def onToolError (handler : Handler Run) (run : Run) (error : String) (raises : Bool) : Handler Run := handler.failRun run error raises
def onRetrieverEnd (handler : Handler Run) (run : Run) (raises : Bool) : Handler Run := handler.finishRun run raises
def onRetrieverError (handler : Handler Run) (run : Run) (error : String) (raises : Bool) : Handler Run := handler.failRun run error raises

/-- The context and the flag are restored from the tokens. -/
def Handler.detach (handler : Handler Run) (token : Option (Bool × Option Nat)) : Handler Run :=
  match token with
  | none => handler
  | some (frameworkLlmActive, context) => { handler with frameworkLlmActive, context }
/-- `on_llm_end`. The logic that all chats share sets a status as well. -/
def onLlmEnd (handler : Handler Run) (run : Run) (raises : Bool) : Handler Run :=
  match handler.spans run with
  | none => handler
  | some holder =>
    let handler := handler.record holder.span .setAttribute
    if raises then handler else ((handler.record holder.span (.setStatus .ok)).detach holder.token).endSpan run none
def onLlmError (handler : Handler Run) (run : Run) (error : String) (raises : Bool) : Handler Run :=
  match handler.spans run with
  | none => handler
  | some holder =>
    if raises then handler else ((handler.record holder.span .setAttribute).detach holder.token).endSpan run (some error)

/-! ### Callbacks -/

inductive Callback (Run : Type) where
  | start (start : Start Run)
  | finish (finish : Finish Run)
  deriving DecidableEq, Repr

def onStart (handler : Handler Run) (start : Start Run) : Handler Run :=
  match start.kind with
  | .chain => onChainStart handler start
  | .llm => onLlmStart handler start
  | .chatModel => onChatModelStart handler start
  | .tool => onToolStart handler start
  | .retriever => onRetrieverStart handler start
def onFinish (handler : Handler Run) (finish : Finish Run) : Handler Run :=
  match finish.kind, finish.error with
  | .chain, none => onChainEnd handler finish.run finish.raises
  | .chain, some error => onChainError handler finish.run error finish.raises
  | .llm, none | .chatModel, none => onLlmEnd handler finish.run finish.raises
  | .llm, some error | .chatModel, some error => onLlmError handler finish.run error finish.raises
  | .tool, none => onToolEnd handler finish.run finish.raises
  | .tool, some error => onToolError handler finish.run error finish.raises
  | .retriever, none => onRetrieverEnd handler finish.run finish.raises
  | .retriever, some error => onRetrieverError handler finish.run error finish.raises
def perform (handler : Handler Run) : Callback Run → Handler Run
  | .start s => onStart handler s
  | .finish f => onFinish handler f

end Openlit.LangchainCallbacks
