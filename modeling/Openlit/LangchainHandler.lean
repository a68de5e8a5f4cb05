import Mathlib.Logic.Function.Basic

/-!
The LangChain callback handler of the TypeScript SDK (`langchain/wrapper.ts`).
Each callback swallows what its body throws, and the end of a model's run is
suspended while the prices are looked up. Of inputs and outputs only what decides
whether a body throws, and which attributes it sets, is kept.
-/
namespace Openlit.LangchainHandler

/-! ### Spans -/

inductive SpanCall
  | setAttribute
  | recordException
  | setStatus (ok : Bool)
  | finish
deriving DecidableEq

/-- A started span with all that was done to it. The tokens are those of its holder, once it has one. -/
structure Span (Run : Type) where
  run : Run
  parent : Option Nat
  calls : List SpanCall := []
  tokens : List String := []
deriving DecidableEq

/-- `OpenlitConfig`. A name that is not set is as good as empty. -/
structure Config where
  traceContent : Bool := true
  applicationName : String := "default"
  environment : String := "default"

/-- A value that is made a text: none that counts, or one for which that may throw. -/
inductive Content
  | absent
  | given (throws : Bool)
deriving DecidableEq

/-- What a body does one after the other. -/
inductive Deed
  | call (call : SpanCall)
  | compute (throws : Bool)
deriving DecidableEq

/-- A value that is made a text for an attribute. -/
def described : Content → List Deed
  | .absent => []
  | .given throws => [.compute throws, .call .setAttribute]
def traced (config : Config) (content : Content) : List Deed := if config.traceContent then described content else []
def attributes (count : Nat) : List Deed := List.replicate count (.call .setAttribute)

/-- An end that is suspended, with what it has computed. -/
structure Suspended (Run : Type) where
  run : Run
  span : Nat
  isStreaming : Bool
  hasFirstToken : Bool
  hasContent : Bool
deriving DecidableEq

/-- The handler with all spans that it has started. -/
structure Handler (Run : Type) where
  started : List (Span Run) := []
  spans : Run → Option Nat := fun _ => none
  suspended : List (Suspended Run) := []

variable {Run : Type} [DecidableEq Run]

def Handler.record (handler : Handler Run) (span : Nat) (call : SpanCall) : Handler Run :=
  { handler with started := handler.started.modify span fun s => { s with calls := s.calls ++ [call] } }
/-- The rest of a body that has its span. Unless it completes, what comes after is not done either. -/
def Handler.body (handler : Handler Run) (span : Nat) (after : Handler Run → Handler Run) : List Deed → Handler Run
  | [] => after handler
  | .call call :: rest => (handler.record span call).body span after rest
  | .compute throws :: rest => if throws then handler else handler.body span after rest

/-! ### Starts -/

/-- The start of a run. `nameThrows` if what names its span cannot be read. -/
structure Start (Run : Type) where
  run : Run
  parent : Option Run := none
  nameThrows : Bool := false
  parameters : Nat := 0
  description : Content := .absent
  content : Content := .absent
deriving DecidableEq

def Handler.set (run : Run) (span : Nat) (handler : Handler Run) : Handler Run :=
  { handler with spans := Function.update handler.spans run (some span) }
def Handler.delete (run : Run) (handler : Handler Run) : Handler Run :=
  { handler with spans := Function.update handler.spans run none }
/-- A run gets a span, and once that has its attributes it is kept. -/
def Handler.startSpan (handler : Handler Run) (start : Start Run) (deeds : List Deed) : Handler Run :=
  if start.nameThrows then handler
  else
    let span := handler.started.length
    let started := handler.started ++ [{ run := start.run, parent := start.parent.bind handler.spans }]
    { handler with started := started }.body span (Handler.set start.run span) deeds

def chatModelDeeds (config : Config) (start : Start Run) : List Deed :=
  attributes 7 ++ attributes start.parameters ++ traced config start.content
def chainDeeds (config : Config) (start : Start Run) : List Deed := attributes 6 ++ traced config start.content
def toolDeeds (config : Config) (start : Start Run) : List Deed :=
  attributes 6 ++ described start.description ++ traced config start.content
def retrieverDeeds (config : Config) (start : Start Run) : List Deed := attributes 5 ++ traced config start.content
def handleChatModelStart (config : Config) (handler : Handler Run) (start : Start Run) : Handler Run :=
  handler.startSpan start (chatModelDeeds config start)
def handleChainStart (config : Config) (handler : Handler Run) (start : Start Run) : Handler Run :=
  handler.startSpan start (chainDeeds config start)
def handleToolStart (config : Config) (handler : Handler Run) (start : Start Run) : Handler Run :=
  handler.startSpan start (toolDeeds config start)
def handleRetrieverStart (config : Config) (handler : Handler Run) (start : Start Run) : Handler Run :=
  handler.startSpan start (retrieverDeeds config start)

def handleLLMNewToken (handler : Handler Run) (token : String) (run : Run) : Handler Run :=
  match handler.spans run with
  | none => handler
  | some span =>
    { handler with started := handler.started.modify span fun s => { s with tokens := s.tokens ++ [token] } }.record span .setAttribute

/-! ### Ends and errors -/

/-- The end of a run with its output. -/
structure Finish (Run : Type) where
  run : Run
  content : Content := .absent
deriving DecidableEq
/-- The end of a run with an error, which may be `null` or `undefined`. -/
structure Failure (Run : Type) where
  run : Run
  isNull : Bool := false
deriving DecidableEq

/-- The end of a run whose span has its attributes, and then no entry. -/
def Handler.finishRun (handler : Handler Run) (run : Run) (deeds : List Deed) : Handler Run :=
  match handler.spans run with
  | none => handler
  | some span => handler.body span (Handler.delete run) (deeds ++ [.call (.setStatus true), .call .finish])
def handleChainEnd (config : Config) (handler : Handler Run) (finish : Finish Run) : Handler Run :=
  handler.finishRun finish.run (attributes 1 ++ traced config finish.content)
def handleToolEnd (config : Config) (handler : Handler Run) (finish : Finish Run) : Handler Run :=
  handler.finishRun finish.run (attributes 1 ++ traced config finish.content)
def handleRetrieverEnd (config : Config) (handler : Handler Run) (finish : Finish Run) : Handler Run :=
  handler.finishRun finish.run (attributes 2 ++ traced config finish.content)

/-- `OpenLitHelper.handleException`, which reads the message of the error, and the end of the span. -/
def Handler.failRun (handler : Handler Run) (failure : Failure Run) : Handler Run :=
  match handler.spans failure.run with
  | none => handler
  | some span =>
    handler.body span (Handler.delete failure.run)
      [.call .recordException, .compute failure.isNull, .call (.setStatus false), .call .finish]
def handleLLMError (handler : Handler Run) (failure : Failure Run) : Handler Run := handler.failRun failure
def handleChainError (handler : Handler Run) (failure : Failure Run) : Handler Run := handler.failRun failure
def handleToolError (handler : Handler Run) (failure : Failure Run) : Handler Run := handler.failRun failure
def handleRetrieverError (handler : Handler Run) (failure : Failure Run) : Handler Run := handler.failRun failure

/-- `_finalizeLLMSpan` up to the lookup. Here the content is the whole output, which is read in any case. -/
def handleLLMEnd (handler : Handler Run) (finish : Finish Run) : Handler Run :=
  match handler.spans finish.run with
  | none => handler
  | some span =>
    if finish.content = .given true then handler
    else
      let tokens := (handler.started[span]?).elim [] (·.tokens)
      let isStreaming := tokens.any (· ≠ "")
      { handler with
        suspended := handler.suspended ++
          [{ run := finish.run, span, isStreaming, hasFirstToken := tokens ≠ [], hasContent := isStreaming ∨ finish.content = .given false }] }
/-- `BaseWrapper.setBaseSpanAttributes`. -/
def setBaseSpanAttributes (config : Config) : List Deed :=
  .compute (config.applicationName = "" || config.environment = "") :: attributes 10 ++ [.call (.setStatus true)]
/-- The attributes after the lookup. The times of the tokens are those by now. -/
def finalDeeds (config : Config) (suspended : Suspended Run) (tokens : List String) : List Deed :=
  attributes 9 ++
    (if suspended.isStreaming ∧ suspended.hasFirstToken then attributes (if 1 < tokens.length then 2 else 1) else []) ++
    (if config.traceContent ∧ suspended.hasContent then attributes 1 else []) ++ setBaseSpanAttributes config
/-- `_finalizeLLMSpan` from the lookup on. That has its own `catch`, as have the cost and the messages of the output. -/
def Handler.resume (config : Config) (handler : Handler Run) (suspended : Suspended Run) : Handler Run :=
  let tokens := (handler.started[suspended.span]?).elim [] (·.tokens)
  handler.body suspended.span (Handler.delete suspended.run)
    (finalDeeds config suspended tokens ++ [.call (.setStatus true), .call .finish])
/-- The lookup for a run returns. -/
def pricesFound (config : Config) (handler : Handler Run) (run : Run) : Handler Run :=
  match handler.suspended.find? (·.run = run) with
  | none => handler
  | some suspended => { handler with suspended := handler.suspended.erase suspended }.resume config suspended

/-! ### Callbacks -/

inductive Kind
  | chatModel
  | chain
  | tool
  | retriever
deriving DecidableEq

/-- The callbacks, and the return of a lookup. -/
inductive Callback (Run : Type)
  | start (kind : Kind) (start : Start Run)
  | token (token : String) (run : Run)
  | finish (kind : Kind) (finish : Finish Run)
  | fail (kind : Kind) (failure : Failure Run)
  | prices (run : Run)
deriving DecidableEq

def perform (config : Config) (handler : Handler Run) : Callback Run → Handler Run
  | .start .chatModel s => handleChatModelStart config handler s
  | .start .chain s => handleChainStart config handler s
  | .start .tool s => handleToolStart config handler s
  | .start .retriever s => handleRetrieverStart config handler s
  | .token token run => handleLLMNewToken handler token run
  | .finish .chatModel f => handleLLMEnd handler f
  | .finish .chain f => handleChainEnd config handler f
  | .finish .tool f => handleToolEnd config handler f
  | .finish .retriever f => handleRetrieverEnd config handler f
  | .fail .chatModel f => handleLLMError handler f
  | .fail .chain f => handleChainError handler f
  | .fail .tool f => handleToolError handler f
  | .fail .retriever f => handleRetrieverError handler f
  | .prices run => pricesFound config handler run

end Openlit.LangchainHandler
