import Mathlib.Algebra.Order.Field.Rat
import Mathlib.Algebra.Order.Ring.Rat
import Mathlib.Tactic.Positivity
import Openlit.Text

/-!
The costs that the Go SDK (`helpers/pricing.go`) and the Python SDK
(`__helpers.py`) compute from one pricing document. Numbers are exact. The Go SDK
reads another schema, and so finds no price in a document of the repository's
format.
-/
namespace Openlit.Pricing
open Openlit.Text

/-! ### Documents -/

/-- A JSON value with exact numbers. -/
inductive Value where
  | null
  | boolean (b : Bool)
  | number (q : ℚ)
  | string (s : String)
  | array (items : List Value)
  | object (fields : List (String × Value))

/-- A member of an object, where the last one of a name counts. -/
def Value.get (v : Value) (name : String) : Option Value :=
  match v with
  | .object fields => (fields.reverse.find? (·.1 = name)).map (·.2)
  | _ => none

structure ChatPrice where
  promptPrice : ℚ
  completionPrice : ℚ
  deriving DecidableEq, Repr
def ChatPrice.toValue (price : ChatPrice) : Value :=
  .object [("promptPrice", .number price.promptPrice), ("completionPrice", .number price.completionPrice)]
def sections : List String := ["embeddings", "images", "audio", "chat"]
/-- The format of `assets/pricing.json`: the sections, with the prices of chat models for 1,000 tokens. -/
structure InFormat (doc : Value) : Prop where
  sections : ∃ fields, doc = .object fields ∧ ∀ field ∈ fields, field.1 ∈ Pricing.sections
  chat : ∀ chat, doc.get "chat" = some chat → ∃ models, chat = .object models ∧ ∀ entry ∈ models, ∃ price : ChatPrice,
    entry.2 = price.toValue ∧ 0 ≤ price.promptPrice ∧ 0 ≤ price.completionPrice

/-! ### Python -/

/-- A value in a product with a number, in which `True` is 1; any other raises. -/
def Value.factor : Value → Option ℚ
  | .number q => some q
  | .boolean b => some (if b then 1 else 0)
  | _ => none
/-- `pricing_info["chat"][model]`. -/
def chatEntry (pricingInfo : Value) (model : String) : Option Value := (pricingInfo.get "chat").bind (·.get model)
/-- Whatever is raised, the cost is 0. -/
def getChatModelCost (model : String) (pricingInfo : Value) (promptTokens completionTokens : Nat) : ℚ :=
  let cost := do
    let prices ← chatEntry pricingInfo model
    let promptPrice ← (← prices.get "promptPrice").factor
    let completionPrice ← (← prices.get "completionPrice").factor
    pure (promptTokens / 1000 * promptPrice + completionTokens / 1000 * completionPrice)
  cost.getD 0

/-! ### Go -/

structure PricingInfo where
  inputCostPerToken : ℚ
  outputCostPerToken : ℚ
  deriving DecidableEq, Repr
structure Prices where
  input : ℚ := 0
  output : ℚ := 0
  deriving DecidableEq, Repr

/-- The name of a field in a document, which Go matches in any case. -/
def isField (name key : String) : Bool := key.toList.map Char.toLower = name.toList
/-- A number is decoded, `null` leaves what is there, and any other value is an error. -/
def decodeFloat (old : ℚ) : Value → Option ℚ
  | .number q => some q
  | .null => some old
  | _ => none
def decodePrice (prices : Prices) (field : String × Value) : Option Prices :=
  if isField "input" field.1 then (decodeFloat prices.input field.2).map fun input => { prices with input }
  else if isField "output" field.1 then (decodeFloat prices.output field.2).map fun output => { prices with output }
  else some prices
def decodePrices : Value → Option Prices
  | .object fields => fields.foldlM decodePrice {}
  | .null => some {}
  | _ => none
/-- The member `data`, a map by models in which the last entry of a name counts. -/
def decodeData (data : List (String × Prices)) : Value → Option (List (String × Prices))
  | .object fields => fields.foldlM (fun data field => (decodePrices field.2).map fun prices =>
      data.filter (·.1 ≠ field.1) ++ [(field.1, prices)]) data
  | .null => some []
  | _ => none
/-- `pricingResponse`, of which all but `data` is skipped. -/
def decodePricing : Value → Option (List (String × Prices))
  | .object fields => fields.foldlM (fun data field => if isField "data" field.1 then decodeData data field.2 else some data) []
  | .null => some []
  | _ => none

structure PricingCache where
  prices : List (String × PricingInfo) := []
  lastFetch : Option Nat := none
  deriving DecidableEq, Repr
/-- In seconds. -/
def fetchInterval : Nat := 24 * 60 * 60

section
variable [CaseFolding]

def normalizeModelName (model : String) : String := trimSpace (CaseFolding.toLower model)
def PricingCache.getPricing (pc : PricingCache) (model : String) : Option PricingInfo :=
  (pc.prices.find? (·.1 = normalizeModelName model)).map (·.2)
def PricingCache.setPricing (pc : PricingCache) (model : String) (pricing : PricingInfo) : PricingCache :=
  { pc with prices := (normalizeModelName model, pricing) :: pc.prices }
def PricingCache.calculateCost (pc : PricingCache) (model : String) (inputTokens outputTokens : Nat) : ℚ :=
  match pc.getPricing model with
  | none => 0
  | some pricing => inputTokens * pricing.inputCostPerToken + outputTokens * pricing.outputCostPerToken
/-- `NewPricingCache`, before anything is fetched. -/
def newPricingCache (customPricing : List (String × PricingInfo)) : PricingCache :=
  customPricing.foldl (fun pc custom => pc.setPricing custom.1 custom.2) {}
/-- What is fetched, in the order in which the map is iterated. Prices that are there stay. -/
def PricingCache.update (pc : PricingCache) (data : List (String × Prices)) : PricingCache :=
  data.foldl (fun pc entry => if (pc.getPricing entry.1).isSome then pc
    else pc.setPricing entry.1 ⟨entry.2.input, entry.2.output⟩) pc
/-- A document that is fetched, unless the last one is recent; none is there where the request or its answer fails. -/
def PricingCache.fetchPricing (pc : PricingCache) (now : Nat) (fetched : Option Value) : PricingCache :=
  if pc.lastFetch.any fun last => now - last < fetchInterval then pc
  else
    match fetched.bind decodePricing with
    | none => pc
    | some data => { pc.update data with lastFetch := some now }

/-! ### What the Go SDK charges -/

theorem getPricing_setPricing (pc : PricingCache) (name model : String) (pricing : PricingInfo) :
    (pc.setPricing name pricing).getPricing model =
      if normalizeModelName name = normalizeModelName model then some pricing else pc.getPricing model := by
  rw [PricingCache.getPricing, PricingCache.setPricing, List.find?_cons]
  by_cases same : normalizeModelName name = normalizeModelName model
  · simp [same]
  · simp [same, PricingCache.getPricing]
/-- A model has the price that is there, or the first that comes under a name that is the same once it is normalised. -/
theorem getPricing_update (pc : PricingCache) (data : List (String × Prices)) (model : String) :
    (pc.update data).getPricing model = (pc.getPricing model).or
      ((data.find? fun entry => normalizeModelName entry.1 = normalizeModelName model).map fun entry =>
        ⟨entry.2.input, entry.2.output⟩) := by
  induction data generalizing pc with
  | nil => simp [PricingCache.update]
  | cons entry rest ih =>
    rw [PricingCache.update, List.foldl_cons, ← PricingCache.update, ih, List.find?_cons]
    by_cases same : normalizeModelName entry.1 = normalizeModelName model
    · have known : pc.getPricing entry.1 = pc.getPricing model := by rw [PricingCache.getPricing, PricingCache.getPricing, same]
      cases old : pc.getPricing model with
      | none => simp [known, old, getPricing_setPricing, same]
      | some pricing => simp [known, old]
    · cases old : pc.getPricing entry.1 with
      | none => simp [getPricing_setPricing, same]
      | some pricing => simp [same]
/-- The prices of a document of the Go SDK's own schema are for single tokens. -/
theorem calculateCost_fetched {doc : Value} {data : List (String × Prices)} (decoded : decodePricing doc = some data) (now : Nat)
    (model : String) (inputTokens outputTokens : Nat) :
    ((newPricingCache []).fetchPricing now (some doc)).calculateCost model inputTokens outputTokens =
      match data.find? fun entry => normalizeModelName entry.1 = normalizeModelName model with
      | none => 0
      | some entry => inputTokens * entry.2.input + outputTokens * entry.2.output := by
  have priced := getPricing_update (newPricingCache []) data model
  rw [PricingCache.fetchPricing, Option.bind_some, decoded]
  show (match ((newPricingCache []).update data).getPricing model with
    | none => 0
    | some pricing => inputTokens * pricing.inputCostPerToken + outputTokens * pricing.outputCostPerToken) = _
  rw [priced]
  cases data.find? fun entry => normalizeModelName entry.1 = normalizeModelName model with
  | none => rfl
  | some entry => rfl

/-! ### The costs -/

variable {doc : Value}

omit [CaseFolding] in
/-- No section has the name of the member that the Go SDK reads. -/
theorem decodePricing_inFormat (format : InFormat doc) : decodePricing doc = some [] := by
  obtain ⟨fields, rfl, named⟩ := format.sections
  have known : ∀ name ∈ Pricing.sections, isField "data" name = false := by decide
  rw [decodePricing]
  clear format
  induction fields with
  | nil => rfl
  | cons field rest ih =>
    have other := known field.1 (named field (by simp))
    simp only [List.foldlM_cons, other]
    exact ih fun f member => named f (List.mem_cons_of_mem _ member)
/-- So every cost that the Go SDK computes from such a document is 0. -/
theorem calculateCost_inFormat (format : InFormat doc) (now : Nat) (model : String) (inputTokens outputTokens : Nat) :
    ((newPricingCache []).fetchPricing now (some doc)).calculateCost model inputTokens outputTokens = 0 := by
  rw [calculateCost_fetched (decodePricing_inFormat format)]
  rfl

omit [CaseFolding] in
theorem chatEntry_inFormat (format : InFormat doc) {model : String} {entry : Value} (found : chatEntry doc model = some entry) :
    ∃ price : ChatPrice, entry = price.toValue ∧ 0 ≤ price.promptPrice ∧ 0 ≤ price.completionPrice := by
  obtain ⟨chat, isChat, looked⟩ := Option.bind_eq_some_iff.mp found
  obtain ⟨models, rfl, priced⟩ := format.chat chat isChat
  obtain ⟨listed, isListed, rfl⟩ := Option.map_eq_some_iff.mp looked
  exact priced listed (List.mem_reverse.mp (List.mem_of_find?_eq_some isListed))
omit [CaseFolding] in
theorem getChatModelCost_priced {model : String} {price : ChatPrice} (found : chatEntry doc model = some price.toValue)
    (promptTokens completionTokens : Nat) :
    getChatModelCost model doc promptTokens completionTokens =
      promptTokens / 1000 * price.promptPrice + completionTokens / 1000 * price.completionPrice := by
  rw [getChatModelCost, found]
  rfl
omit [CaseFolding] in
theorem ChatPrice.toValue_inj {price other : ChatPrice} (same : price.toValue = other.toValue) : price = other := by
  simp only [ChatPrice.toValue, Value.object.injEq, List.cons.injEq, Prod.mk.injEq, Value.number.injEq, true_and, and_true] at same
  obtain ⟨prompt, completion⟩ := same
  cases price
  cases other
  simp_all
omit [CaseFolding] in
/-- A cost is 0 if the model has no price, or if nothing that has a price is used. -/
theorem getChatModelCost_eq_zero (format : InFormat doc) (model : String) (promptTokens completionTokens : Nat) :
    getChatModelCost model doc promptTokens completionTokens = 0 ↔
      ∀ price : ChatPrice, chatEntry doc model = some price.toValue →
        (promptTokens = 0 ∨ price.promptPrice = 0) ∧ (completionTokens = 0 ∨ price.completionPrice = 0) := by
  cases found : chatEntry doc model with
  | none =>
    refine iff_of_true ?_ fun price priced => nomatch priced
    rw [getChatModelCost, found]
    rfl
  | some entry =>
    obtain ⟨price, rfl, prompt, completion⟩ := chatEntry_inFormat format found
    rw [getChatModelCost_priced found, add_eq_zero_iff_of_nonneg (by positivity) (by positivity)]
    have only : (∀ other : ChatPrice, some price.toValue = some other.toValue →
        (promptTokens = 0 ∨ other.promptPrice = 0) ∧ (completionTokens = 0 ∨ other.completionPrice = 0)) ↔
          (promptTokens = 0 ∨ price.promptPrice = 0) ∧ (completionTokens = 0 ∨ price.completionPrice = 0) := by
      constructor
      · exact fun all => all price rfl
      · intro own other same
        rwa [← ChatPrice.toValue_inj (Option.some.inj same)]
    rw [only]
    simp

/-- Both SDKs compute the same cost exactly where the Python SDK computes 0. -/
theorem costs_agree_iff (format : InFormat doc) (now : Nat) (model : String) (promptTokens completionTokens : Nat) :
    ((newPricingCache []).fetchPricing now (some doc)).calculateCost model promptTokens completionTokens =
        getChatModelCost model doc promptTokens completionTokens ↔
      ∀ price : ChatPrice, chatEntry doc model = some price.toValue →
        (promptTokens = 0 ∨ price.promptPrice = 0) ∧ (completionTokens = 0 ∨ price.completionPrice = 0) := by
  rw [calculateCost_inFormat format, eq_comm]
  exact getChatModelCost_eq_zero format model promptTokens completionTokens

end

def samplePrice : ChatPrice := { promptPrice := 1 / 400, completionPrice := 1 / 100 }
/-- A document with one model. -/
def sampleDocument : Value := .object [("chat", .object [("gpt-4o", samplePrice.toValue)])]

theorem sampleDocument_inFormat : InFormat sampleDocument where
  sections := ⟨_, rfl, by simp [sections]⟩
  chat := by
    rintro _ ⟨⟩
    refine ⟨_, rfl, ?_⟩
    simp only [List.mem_singleton, forall_eq]
    exact ⟨samplePrice, rfl, by norm_num [samplePrice], by norm_num [samplePrice]⟩
theorem costs_agree_unpriced :
    let _ := asciiFolding
    (((newPricingCache []).fetchPricing 0 (some sampleDocument)).calculateCost "my-model" 1000 0 =
        getChatModelCost "my-model" sampleDocument 1000 0 ↔
      ∀ price : ChatPrice, chatEntry sampleDocument "my-model" = some price.toValue →
        (1000 = 0 ∨ price.promptPrice = 0) ∧ (0 = 0 ∨ price.completionPrice = 0)) :=
  let _ := asciiFolding
  costs_agree_iff sampleDocument_inFormat 0 "my-model" 1000 0
/-- A thousand tokens of a priced model cost nothing in the Go SDK. -/
theorem price_not_found :
    ¬ ∀ [CaseFolding] (doc : Value), InFormat doc → ∀ (now : Nat) (model : String) (promptTokens completionTokens : Nat),
        ((newPricingCache []).fetchPricing now (some doc)).calculateCost model promptTokens completionTokens =
          getChatModelCost model doc promptTokens completionTokens := by
  intro all
  let _ := asciiFolding
  have free := all sampleDocument sampleDocument_inFormat 0 "gpt-4o" 1000 0
  have found : chatEntry sampleDocument "gpt-4o" = some samplePrice.toValue := rfl
  rw [calculateCost_inFormat sampleDocument_inFormat, getChatModelCost_priced found] at free
  norm_num [samplePrice] at free

end Openlit.Pricing
