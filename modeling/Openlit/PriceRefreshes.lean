import Openlit.Pricing
import Openlit.Runs

/-!
The pricing cache of the Go SDK over any sequence of prices that are set and
documents that are fetched (`helpers/pricing.go`). One map has the prices of the
user and those of a document. What the map has is never replaced by a fetch, so
the prices of the user are kept, but so are those of an earlier document.
-/
namespace Openlit.PriceRefreshes
open Openlit.Pricing Openlit.Runs Openlit.Text

/-! ### Events -/

/-- What happens to a cache. A fetch is made without the lock: a refresh begins one unless the last is recent, and its
answer comes later, as the prices of the document in the order in which the map is iterated, or as nothing where it failed. -/
inductive Event where
  | newPricingCache (customPricing : List (String × PricingInfo))
  | setPricing (model : String) (pricing : PricingInfo)
  | refresh (now : Nat)
  | answer (now : Nat) (data : Option (List (String × Prices)))
  deriving DecidableEq, Repr
/-- The cache with the fetches that are under way, and, as a record of what has happened, the prices that the user has set
and the document that was fetched last. -/
structure System where
  cache : PricingCache := {}
  pending : Nat := 0
  custom : PricingCache := {}
  latest : Option (List (String × Prices)) := none

/-- A price that a document has for a model. -/
def Priced [CaseFolding] (data : List (String × Prices)) (model : String) (pricing : PricingInfo) : Prop :=
  ∃ entry ∈ data, normalizeModelName entry.1 = normalizeModelName model ∧ pricing = ⟨entry.2.input, entry.2.output⟩

section
variable [CaseFolding]

def recent (pc : PricingCache) (now : Nat) : Bool := pc.lastFetch.any fun last => now - last < fetchInterval
def step (s : System) : Event → System
  | .newPricingCache customPricing => { cache := newPricingCache customPricing, custom := newPricingCache customPricing }
  | .setPricing model pricing => { s with cache := s.cache.setPricing model pricing, custom := s.custom.setPricing model pricing }
  | .refresh now => if recent s.cache now then s else { s with pending := s.pending + 1 }
  | .answer now data =>
    if s.pending = 0 then s
    else
      match data with
      | none => { s with pending := s.pending - 1 }
      | some data =>
        { s with cache := { s.cache.update data with lastFetch := some now }, pending := s.pending - 1, latest := some data }

/-- The user's prices are there. -/
def CustomKept (s : System) : Prop :=
  ∀ model pricing, s.custom.getPricing model = some pricing → s.cache.getPricing model = some pricing
/-- What should hold: all other prices are those of the last document. -/
structure Sound (s : System) : Prop where
  custom : CustomKept s
  latest : ∀ data, s.latest = some data → ∀ model, s.custom.getPricing model = none →
    (∀ pricing, s.cache.getPricing model = some pricing → Priced data model pricing) ∧
      (s.cache.getPricing model = none → ∀ pricing, ¬ Priced data model pricing)
/-- A document that comes has every price that was fetched before. -/
def Unchanged (s : System) : Event → Prop
  | .answer _ (some data) => s.pending ≠ 0 → ∀ model pricing, s.custom.getPricing model = none →
      s.cache.getPricing model = some pricing → Priced data model pricing
  | _ => True

/-! ### What an event does -/

/-- A refresh that is answered at once is a fetch. -/
theorem answered_refresh {s : System} (alone : s.pending = 0) (now : Nat) (fetched : Option Value) :
    (step (step s (.refresh now)) (.answer now (fetched.bind decodePricing))).cache = s.cache.fetchPricing now fetched := by
  unfold PricingCache.fetchPricing
  by_cases early : recent s.cache now = true
  · have isEarly : (s.cache.lastFetch.any fun last => now - last < fetchInterval) = true := early
    simp [step, early, isEarly, alone]
  · have notEarly : ¬ (s.cache.lastFetch.any fun last => now - last < fetchInterval) = true := early
    simp only [step, if_neg early, if_neg notEarly]
    cases fetched.bind decodePricing <;> rfl

theorem priced_of_find {data : List (String × Prices)} {model : String} {entry : String × Prices}
    (found : data.find? (fun entry => normalizeModelName entry.1 = normalizeModelName model) = some entry) :
    Priced data model ⟨entry.2.input, entry.2.output⟩ :=
  ⟨entry, List.mem_of_find?_eq_some found, by simpa using List.find?_some found, rfl⟩
theorem not_priced_of_find {data : List (String × Prices)} {model : String}
    (absent : data.find? (fun entry => normalizeModelName entry.1 = normalizeModelName model) = none) (pricing : PricingInfo) :
    ¬ Priced data model pricing := by
  rintro ⟨entry, inside, same, -⟩
  exact List.find?_eq_none.mp absent entry inside (decide_eq_true same)
/-- The prices that are there stay. -/
theorem getPricing_update_old {pc : PricingCache} {model : String} {pricing : PricingInfo} (there : pc.getPricing model = some pricing)
    (data : List (String × Prices)) : (pc.update data).getPricing model = some pricing := by
  rw [getPricing_update, there, Option.some_or]

/-- The prices stay as they are. -/
structure SamePrices (s s' : System) : Prop where
  cache : s'.cache = s.cache
  custom : s'.custom = s.custom
  latest : s'.latest = s.latest

theorem SamePrices.customKept {s s' : System} (same : SamePrices s s') (kept : CustomKept s) : CustomKept s' := by
  intro model pricing isCustom
  rw [same.custom] at isCustom
  rw [same.cache]
  exact kept model pricing isCustom
theorem SamePrices.sound {s s' : System} (same : SamePrices s s') (sound : Sound s) : Sound s' := by
  refine ⟨same.customKept sound.custom, fun data isLatest model notCustom => ?_⟩
  rw [same.latest] at isLatest
  rw [same.custom] at notCustom
  rw [same.cache]
  exact sound.latest data isLatest model notCustom
theorem refresh_same (s : System) (now : Nat) : SamePrices s (step s (.refresh now)) := by
  rw [step]
  split <;> exact ⟨rfl, rfl, rfl⟩
theorem answer_none_same (s : System) (now : Nat) : SamePrices s (step s (.answer now none)) := by
  rw [step]
  split <;> exact ⟨rfl, rfl, rfl⟩

theorem step_customKept {s : System} (kept : CustomKept s) (e : Event) : CustomKept (step s e) := by
  cases e with
  | newPricingCache customPricing => exact fun _ _ isCustom => isCustom
  | setPricing model pricing =>
    intro name price isCustom
    simp only [step, getPricing_setPricing] at isCustom ⊢
    split at isCustom
    next same => rwa [if_pos same]
    next other =>
      rw [if_neg other]
      exact kept name price isCustom
  | refresh now => exact (refresh_same s now).customKept kept
  | answer now data =>
    cases data with
    | none => exact (answer_none_same s now).customKept kept
    | some data =>
      intro name price isCustom
      by_cases none : s.pending = 0
      · have same : step s (.answer now (some data)) = s := if_pos none
        rw [same] at isCustom ⊢
        exact kept name price isCustom
      · have after : step s (.answer now (some data)) = _ := if_neg none
        rw [after] at isCustom ⊢
        exact getPricing_update_old (kept name price isCustom) data

/-- A price that is set is no longer one of a document. -/
theorem setPricing_sound {s : System} (sound : Sound s) (model : String) (pricing : PricingInfo) :
    Sound (step s (.setPricing model pricing)) := by
  refine ⟨step_customKept sound.custom _, fun data isLatest name notCustom => ?_⟩
  simp only [step, getPricing_setPricing] at notCustom ⊢
  split at notCustom
  · cases notCustom
  next other =>
    rw [if_neg other]
    exact sound.latest data isLatest name notCustom
/-- A document that comes keeps what should hold exactly if it has the prices that were fetched before. -/
theorem answer_sound_iff {s : System} (sound : Sound s) (now : Nat) (data : List (String × Prices)) :
    Sound (step s (.answer now (some data))) ↔ Unchanged s (.answer now (some data)) := by
  by_cases none : s.pending = 0
  · have same : step s (.answer now (some data)) = s := if_pos none
    rw [same]
    exact iff_of_true sound fun there => absurd none there
  have after : step s (.answer now (some data)) =
      { s with cache := { s.cache.update data with lastFetch := some now }, pending := s.pending - 1, latest := some data } :=
    if_neg none
  constructor
  · intro kept _ model pricing notCustom there
    rw [after] at kept
    exact (kept.latest data rfl model notCustom).1 pricing (getPricing_update_old there data)
  · intro unchanged
    refine ⟨step_customKept sound.custom _, ?_⟩
    rw [after]
    rintro _ ⟨⟩ model notCustom
    show (∀ pricing, (s.cache.update data).getPricing model = some pricing → Priced data model pricing) ∧
      ((s.cache.update data).getPricing model = Option.none → ∀ pricing, ¬ Priced data model pricing)
    cases there : s.cache.getPricing model with
    | some pricing =>
      rw [getPricing_update_old there]
      refine ⟨?_, nofun⟩
      rintro _ ⟨⟩
      exact unchanged none model pricing notCustom there
    | none =>
      rw [getPricing_update, there, Option.none_or]
      cases found : data.find? fun entry => normalizeModelName entry.1 = normalizeModelName model with
      | some entry =>
        refine ⟨?_, nofun⟩
        rintro _ ⟨⟩
        exact priced_of_find found
      | none => exact ⟨nofun, fun _ => not_priced_of_find found⟩
theorem step_sound_iff (s : System) (e : Event) (sound : Sound s) : Sound (step s e) ↔ Unchanged s e := by
  cases e with
  | newPricingCache customPricing => exact iff_of_true ⟨step_customKept sound.custom _, nofun⟩ trivial
  | setPricing model pricing => exact iff_of_true (setPricing_sound sound model pricing) trivial
  | refresh now => exact iff_of_true ((refresh_same s now).sound sound) trivial
  | answer now data =>
    cases data with
    | none => exact iff_of_true ((answer_none_same s now).sound sound) trivial
    | some data => exact answer_sound_iff sound now data

/-! ### Sequences of events -/

/-- In every sequence of events the user's prices are there, and all other prices are those of the last document, exactly if
every document has the prices that were fetched before. -/
theorem sound_iff_unchanged (events : List Event) :
    (∀ before, before <+: events → Sound (run step {} before)) ↔
      ∀ before e, before ++ [e] <+: events → Unchanged (run step {} before) e :=
  always_iff ⟨nofun, nofun⟩ step_sound_iff events
/-- What the user has set is there after every sequence of events. -/
theorem custom_kept (events : List Event) : CustomKept (run step {} events) :=
  @run_keeps _ _ step {} CustomKept (fun _ _ isCustom => isCustom) (fun _ e kept => step_customKept kept e) events

end

/-! ### A price that changes -/

/-- A document with the price of one model. -/
def document (input output : ℚ) : Value :=
  .object [("data", .object [("gpt-4o", .object [("input", .number input), ("output", .number output)])])]
/-- Two documents on different days. -/
def priceDrop : List Event :=
  [.refresh 0, .answer 0 (decodePricing (document 2 4)), .refresh (2 * fetchInterval),
    .answer (2 * fetchInterval) (decodePricing (document 1 2))]

/-- The price of the first document is still there after the second. -/
theorem new_price_not_used :
    ¬ ∀ [CaseFolding] (events before : List Event), before <+: events → Sound (run step {} before) := by
  intro all
  let _ := asciiFolding
  have sound := all priceDrop priceDrop (List.prefix_refl _)
  have fetched : (run step {} priceDrop).latest = some [("gpt-4o", ⟨1, 2⟩)] := by decide +kernel
  have there : (run step {} priceDrop).cache.getPricing "gpt-4o" = some ⟨2, 4⟩ := by decide +kernel
  have notCustom : (run step {} priceDrop).custom.getPricing "gpt-4o" = none := by decide +kernel
  obtain ⟨entry, inside, -, same⟩ := (sound.latest _ fetched "gpt-4o" notCustom).1 _ there
  obtain rfl := List.mem_singleton.mp inside
  exact absurd same (by decide)

end Openlit.PriceRefreshes
