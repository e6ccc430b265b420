import RecordSearch.Proofs.Controller.Facets

/-!
# Whether it matters what came first

Two requests run side by side: the choices of one field are loaded at the start,
and searches bring facets. Both write choices, each at the tick that picks it up,
and nothing else in a controller does. So after a run all choices are told by
what was picked up and in which order.

For most fields the order makes no difference, because only one side means them.
The field whose choices are loaded is the exception. Within a tick the loaded
choices are picked up before the results, so that facets have the last word, as
the narrower of the two. Over several ticks there is no such rule: if the loaded
choices come late, they replace facets that are already shown.
-/

namespace RecordSearch

namespace Controller

variable {ι : Type} {c : Controller ι}

/-- Something that brings choices when it is picked up. -/
inductive Delivery (ι : Type)
  /-- The choices known beforehand. -/
  | choices (page : ResultPage Choice)
  | results (page : ResultPage ι)
deriving DecidableEq

/-- The choices that a delivery offers, facets in the order of their keys. -/
def Delivery.offers (wiring : Wiring) : Delivery ι → Offers
  | .choices page => [(wiring.preloadField, page.data)]
  | .results page => page.facets.toChoices.toList

/-- What picking up the choices known beforehand finds. -/
def dueChoices (c : Controller ι) : List (Delivery ι) :=
  match c.preloadFlight with
  | none => []
  | some number =>
    match (c.preloads.poll number).1 with
    | .ready (.ok page) => [.choices page]
    | _ => []

/-- What picking up results finds. -/
def dueResults (c : Controller ι) : List (Delivery ι) :=
  match c.flight with
  | none => []
  | some flight =>
    match (c.searches.poll flight.number).1 with
    | .ready (.ok page) => [.results page]
    | _ => []

/-- What is picked up by an action; only a tick does. -/
def pickups (c : Controller ι) : Action ι → List (Delivery ι)
  | .poll =>
    if c.phase = .disposed then []
    else c.syncAddress.serveRefreshes.dueChoices ++ c.beforeResults.dueResults
  | _ => []

/-- What is picked up in a run, one after another. -/
def deliveries (c : Controller ι) : List (Action ι) → List (Delivery ι)
  | [] => []
  | action :: rest => c.pickups action ++ (c.step action).deliveries rest

/-! ## A tick -/

theorem dueChoices_of_flight {number : Nat} (hflight : c.preloadFlight = some number) :
    c.dueChoices = match (c.preloads.poll number).1 with
      | .ready (.ok page) => [.choices page]
      | _ => [] := by
  rw [dueChoices, hflight]

theorem dueResults_of_flight {flight : Flight} (hflight : c.flight = some flight) :
    c.dueResults = match (c.searches.poll flight.number).1 with
      | .ready (.ok page) => [.results page]
      | _ => [] := by
  rw [dueResults, hflight]

theorem collectChoices_filters (c : Controller ι) :
    c.collectChoices.filters =
      c.filters.offer (c.dueChoices.flatMap (·.offers c.wiring)) := by
  rw [collectChoices]
  split
  · next hnone =>
      rw [dueChoices, hnone]
      rfl
  · next number hflight =>
      rw [dueChoices_of_flight hflight]
      have hdrop := dropPreload_beside { c with preloads := (c.preloads.poll number).2 }
      dsimp only
      cases (c.preloads.poll number).1 with
      | pending => rfl
      | abandoned => exact hdrop.filters
      | ready answer =>
          cases answer with
          | error _ => exact hdrop.filters
          | ok page =>
              dsimp only
              rw [hdrop.filters, hdrop.wiring]
              rfl

theorem collectResults_filters (c : Controller ι) :
    c.collectResults.filters =
      c.filters.offer (c.dueResults.flatMap (·.offers c.wiring)) := by
  rw [collectResults]
  split
  · next hnone =>
      rw [dueResults, hnone]
      rfl
  · next flight hflight =>
      rw [dueResults_of_flight hflight]
      dsimp only
      cases (c.searches.poll flight.number).1 with
      | pending => rfl
      | abandoned => exact (showFailure_beside _ _).filters
      | ready answer =>
          cases answer with
          | error _ => exact (showFailure_beside _ _).filters
          | ok page =>
              dsimp only
              rw [showPage_filters, List.flatMap_singleton]
              rfl

/-- To the filters a tick brings the choices that it picks up, and nothing else. -/
theorem poll_filters (hlive : c.phase ≠ .disposed) :
    c.poll.filters = c.drained.offer ((c.pickups .poll).flatMap (·.offers c.wiring)) := by
  have hserved := serveRefreshes_beside c.syncAddress
  have hwiring : c.syncAddress.serveRefreshes.wiring = c.wiring :=
    hserved.wiring.trans (syncAddress_continues c).wiring
  have hwiring' : c.beforeResults.wiring = c.wiring :=
    (collectChoices_offered _).wiring.trans hwiring
  rw [poll_eq_collectResults hlive, collectResults_filters, hwiring', beforeResults,
    collectChoices_filters, hwiring, hserved.filters, syncAddress_filters, ← Filters.offer_append,
    ← List.flatMap_append, pickups, if_neg hlive, beforeResults]

/-! ## A run -/

theorem Sound.step_menus (h : c.Sound) {action : Action ι} (hpoll : action ≠ .poll) :
    (c.step action).filters.menus = c.filters.menus := by
  cases action with
  | poll => exact absurd rfl hpoll
  | submit =>
      rw [step_submit]
      rcases h.submit_cases with ⟨_, heq⟩ | ⟨_, _, heq⟩ | ⟨_, _, heq⟩
      · rw [heq]
      · rw [heq, (turnDown_beside c).filters]
      · rw [heq, (beginSearch_beside _).filters]
        exact Filters.assign_menus _ _ _
  | turnPage turn =>
      rw [step_turnPage]
      rcases h.turnPage_cases turn with ⟨_, heq⟩ | ⟨_, _, heq⟩ |
        ⟨_, _, ⟨_, _, heq⟩ | ⟨_, _, heq⟩ | ⟨_, heq⟩⟩
      · rw [heq]
      · rw [heq]
      · rw [heq, (turnDown_beside c).filters]
      · rw [heq, (beginSearch_beside _).filters]
        exact Filters.assign_menus _ _ _
      · rw [heq]
        exact Filters.assign_menus _ _ _
  | followAddress =>
      rw [step_followAddress]
      rcases h.followAddress_cases with ⟨_, heq⟩ | ⟨_, _, heq⟩ | ⟨hlive, hdiffers, _⟩
      · rw [heq]
      · rw [heq]
        exact Filters.assign_menus _ _ _
      · rw [(followAddress_beside_read hlive (h.isOpen hlive) hdiffers).filters]
        exact Filters.assign_menus _ _ _
  | dispose =>
      rw [step_dispose, dispose]
      split
      · rfl
      · have hdrop := (dropSearch_beside c).trans (dropPreload_beside _)
        have hmenus : c.dropSearch.dropPreload.filters.menus = c.filters.menus := by
          rw [hdrop.filters]
        exact hmenus
  | _ => rw [step_eq_of_passesBy c rfl]

theorem Sound.step_takes (h : c.Sound) (action : Action ι) :
    c.filters.Takes ((c.pickups action).flatMap (·.offers c.wiring))
      (c.step action).filters := by
  by_cases hpoll : action = .poll
  · subst hpoll
    rw [step_poll]
    by_cases hlive : c.phase = .disposed
    · rw [poll_of_disposed hlive, pickups, if_pos hlive]
      exact Filters.takes_of_menus rfl
    · have hopen : c.drained.isClosed = false := h.isOpen hlive
      rw [poll_filters hlive]
      exact Filters.takes_offer hopen _
  · have hnothing : c.pickups action = [] := by
      cases action with
      | poll => exact absurd rfl hpoll
      | _ => rfl
    rw [hnothing]
    exact Filters.takes_of_menus (h.step_menus hpoll)

/-- All choices after a run are told by what was picked up. -/
theorem Sound.run_takes (h : c.Sound) (actions : List (Action ι)) :
    c.filters.Takes ((c.deliveries actions).flatMap (·.offers c.wiring))
      (c.run actions).filters := by
  induction actions generalizing c with
  | nil => exact Filters.takes_of_menus rfl
  | cons action rest ih =>
      have hrest := ih (h.step action)
      rw [(h.step_continues action).wiring] at hrest
      rw [deliveries, List.flatMap_append]
      exact (h.step_takes action).trans hrest

/-! ## Two runs

The same two pages are picked up, in either order. -/

section Orders

variable {p : ResultPage Choice} {r : ResultPage ι} {spec : FieldSpec} {wiring : Wiring}

theorem lastOffer?_choices_results : spec.lastOffer?
    ([Delivery.choices p, .results r].flatMap (·.offers wiring)) =
      (spec.lastOffer? r.facets.toChoices.toList).or
        (if spec.hasKey wiring.preloadField then some p.data else none) := by
  rw [List.flatMap_cons, List.flatMap_singleton]
  exact FieldSpec.lastOffer?_cons spec _ _

theorem lastOffer?_results_choices : spec.lastOffer?
    ([Delivery.results r, .choices p].flatMap (·.offers wiring)) =
      (if spec.hasKey wiring.preloadField then some p.data else none).or
        (spec.lastOffer? r.facets.toChoices.toList) := by
  rw [List.flatMap_cons, List.flatMap_singleton, FieldSpec.lastOffer?_append]
  congr 1
  exact FieldSpec.lastOffer?_cons spec _ []

variable {early late : List (Action ι)} {key : String}

/-- If the loaded choices come first, facets for their field replace them. -/
theorem Sound.faceted_of_early (h : c.Sound)
    (hearly : c.deliveries early = [.choices p, .results r])
    (hspec : spec ∈ c.filters.specs) (hkey : spec.hasKey key = true) :
    spec.Faceted r.facets
      (if spec.hasKey c.wiring.preloadField then p.data else c.filters.choices key)
      ((c.run early).filters.choices key) := by
  have htakes := h.run_takes early
  rw [hearly] at htakes
  rw [FieldSpec.faceted_iff, htakes.choices hspec hkey, lastOffer?_choices_results]
  cases spec.lastOffer? r.facets.toChoices.toList with
  | some _ => rfl
  | none =>
      by_cases hloaded : spec.hasKey c.wiring.preloadField = true
      · rw [if_pos hloaded, if_pos hloaded]
        rfl
      · rw [if_neg hloaded, if_neg hloaded]
        rfl

theorem Sound.choices_of_late (h : c.Sound)
    (hlate : c.deliveries late = [.results r, .choices p])
    (hspec : spec ∈ c.filters.specs) (hkey : spec.hasKey key = true)
    (hloaded : spec.hasKey c.wiring.preloadField = true) :
    (c.run late).filters.choices key = p.data := by
  have htakes := h.run_takes late
  rw [hlate] at htakes
  rw [htakes.choices hspec hkey, lastOffer?_results_choices, if_pos hloaded]
  rfl

/-- Of a field that is not loaded only the facets speak. -/
theorem Sound.choices_agree (h : c.Sound)
    (hearly : c.deliveries early = [.choices p, .results r])
    (hlate : c.deliveries late = [.results r, .choices p])
    (hspec : spec ∈ c.filters.specs) (hkey : spec.hasKey key = true)
    (hloaded : ¬spec.hasKey c.wiring.preloadField = true) :
    (c.run late).filters.choices key = (c.run early).filters.choices key := by
  have htakes := h.run_takes early
  have htakes' := h.run_takes late
  rw [hearly] at htakes
  rw [hlate] at htakes'
  rw [htakes.choices hspec hkey, htakes'.choices hspec hkey, lastOffer?_choices_results,
    lastOffer?_results_choices, if_neg hloaded, Option.or_none, Option.none_or]

theorem Sound.choices_run_of_unknown (h : c.Sound) (hunknown : c.filters.contains key = false)
    (actions : List (Action ι)) : (c.run actions).filters.choices key = [] := by
  refine Filters.choices_of_unknown ?_
  rw [Filters.contains_eq_of_specs (h.run_continues actions).specs, hunknown]

/-- The order makes no difference exactly if facets leave the loaded choices as they are. -/
theorem Sound.choices_eq_iff (h : c.Sound)
    (hearly : c.deliveries early = [.choices p, .results r])
    (hlate : c.deliveries late = [.results r, .choices p]) :
    (∀ key, (c.run early).filters.choices key = (c.run late).filters.choices key) ↔
      ∀ spec ∈ c.filters.specs, spec.hasKey c.wiring.preloadField = true →
        spec.Faceted r.facets p.data p.data := by
  constructor
  · intro hsame spec hspec hloaded
    have hfaceted := h.faceted_of_early hearly hspec hloaded
    rw [if_pos hloaded, hsame, h.choices_of_late hlate hspec hloaded hloaded] at hfaceted
    exact hfaceted
  · intro hleft key
    cases hknown : c.filters.contains key with
    | false => rw [h.choices_run_of_unknown hknown, h.choices_run_of_unknown hknown]
    | true =>
        obtain ⟨field, hfield, hkey⟩ := List.any_eq_true.1 hknown
        have hspec : field.spec ∈ c.filters.specs := List.mem_map_of_mem hfield
        by_cases hloaded : field.spec.hasKey c.wiring.preloadField = true
        · have hfaceted := h.faceted_of_early hearly hspec hkey
          rw [if_pos hloaded, FieldSpec.faceted_iff,
            FieldSpec.faceted_iff.1 (hleft _ hspec hloaded)] at hfaceted
          rw [← hfaceted, h.choices_of_late hlate hspec hkey hloaded]
        · exact (h.choices_agree hearly hlate hspec hkey hloaded).symm

end Orders

/-- The loaded choices and the facets of a page, picked up in either order. For most
fields the outcome is the same. The field that is loaded shows what was picked up
last, so it is the same only if the facets of the page do not change that field. -/
theorem choices_commute_iff {wiring : Wiring} {specs : List FieldSpec}
    {searches : Desk Query (PageAnswer ι)} {preloads : Desk Query (PageAnswer Choice)}
    {bar : AddressBar} (hcreate : create wiring specs searches preloads bar = .ok c)
    {before early late : List (Action ι)} {p : ResultPage Choice} {r : ResultPage ι}
    (hearly : (c.run before).deliveries early = [.choices p, .results r])
    (hlate : (c.run before).deliveries late = [.results r, .choices p]) :
    (∀ spec ∈ specs, ∀ key, spec.hasKey key = true →
      if spec.hasKey wiring.preloadField = true then
        spec.Faceted r.facets p.data (((c.run before).run early).filters.choices key) ∧
          ((c.run before).run late).filters.choices key = p.data
      else
        spec.Faceted r.facets ((c.run before).filters.choices key)
            (((c.run before).run early).filters.choices key) ∧
          ((c.run before).run late).filters.choices key =
            ((c.run before).run early).filters.choices key) ∧
      ((∀ key, ((c.run before).run early).filters.choices key =
          ((c.run before).run late).filters.choices key) ↔
        ∀ spec ∈ specs, spec.hasKey wiring.preloadField = true →
          spec.Faceted r.facets p.data p.data) := by
  obtain ⟨hwiring, hspecs⟩ := declarations_of_create hcreate before
  have hsound := (sound_of_create hcreate).run before
  rw [← hwiring, ← hspecs]
  refine ⟨fun spec hspec key hkey => ?_, hsound.choices_eq_iff hearly hlate⟩
  have hfaceted := hsound.faceted_of_early hearly hspec hkey
  split
  · next hloaded =>
      rw [if_pos hloaded] at hfaceted
      exact ⟨hfaceted, hsound.choices_of_late hlate hspec hkey hloaded⟩
  · next hloaded =>
      rw [if_neg hloaded] at hfaceted
      exact ⟨hfaceted, hsound.choices_agree hearly hlate hspec hkey hloaded⟩

/-- The choices known beforehand for the kinds of credentials. -/
def kinds : ResultPage Choice :=
  ⟨[⟨"1", "Registration", none⟩], .ofList [], 1, 1⟩

/-- A page with counts for one field. -/
def countedUnder (key : String) : ResultPage Unit :=
  ⟨[()], .ofList [(key, [⟨"1", 2⟩])], 1, 1⟩

/-- The kinds are loaded, and only then there are results. -/
def listedFirst (page : ResultPage Unit) : List (Action Unit) :=
  [.completePreload (.ok kinds), .poll, .complete 0 (.ok page), .poll]

/-- The results are there before the kinds. -/
def countedFirst (page : ResultPage Unit) : List (Action Unit) :=
  [.complete 0 (.ok page), .poll, .completePreload (.ok kinds), .poll]

/-- Counts of another field do not compete with the kinds. -/
theorem choices_commute_issuers :
    ∃ c : Controller Unit,
      create .default standardFields (.ofSource fun _ _ => .hold) (.ofSource fun _ _ => .hold)
        (.ofUrl "/search?q=a") = .ok c ∧
      (c.run []).deliveries (listedFirst (countedUnder issuerField)) =
        [.choices kinds, .results (countedUnder issuerField)] ∧
      (c.run []).deliveries (countedFirst (countedUnder issuerField)) =
        [.results (countedUnder issuerField), .choices kinds] ∧
      ∀ key, ((c.run []).run (listedFirst (countedUnder issuerField))).filters.choices key =
        ((c.run []).run (countedFirst (countedUnder issuerField))).filters.choices key := by
  obtain ⟨c, hcreate, hcheck⟩ := exists_ok_of_check
    (create .default standardFields (.ofSource fun _ _ => .hold)
      (.ofSource fun _ _ => .hold) (.ofUrl "/search?q=a"))
    (fun c : Controller Unit => decide
      ((c.run []).deliveries (listedFirst (countedUnder issuerField)) =
          [.choices kinds, .results (countedUnder issuerField)] ∧
        (c.run []).deliveries (countedFirst (countedUnder issuerField)) =
          [.results (countedUnder issuerField), .choices kinds]))
    (by decide +kernel)
  obtain ⟨hearly, hlate⟩ := of_decide_eq_true hcheck
  refine ⟨c, hcreate, hearly, hlate, (choices_commute_iff hcreate hearly hlate).2.2 ?_⟩
  intro spec hspec hloaded
  refine .unnamed fun entry hentry => ?_
  obtain rfl := List.mem_singleton.1 hentry
  revert spec
  decide +kernel

/-- Counts of the kinds do: which of them are shown depends on what came last. -/
theorem choices_differ_kinds :
    ∃ c : Controller Unit,
      create .default standardFields (.ofSource fun _ _ => .hold) (.ofSource fun _ _ => .hold)
        (.ofUrl "/search?q=a") = .ok c ∧
      c.deliveries (listedFirst (countedUnder credentialTypeField)) =
        [.choices kinds, .results (countedUnder credentialTypeField)] ∧
      c.deliveries (countedFirst (countedUnder credentialTypeField)) =
        [.results (countedUnder credentialTypeField), .choices kinds] ∧
      (c.run (listedFirst (countedUnder credentialTypeField))).filters.choices
        credentialTypeField = [⟨"1", "1 (2)", some 2⟩] ∧
      (c.run (countedFirst (countedUnder credentialTypeField))).filters.choices
        credentialTypeField = [⟨"1", "Registration", none⟩] := by
  obtain ⟨c, hcreate, hcheck⟩ := exists_ok_of_check
    (create .default standardFields (.ofSource fun _ _ => .hold)
      (.ofSource fun _ _ => .hold) (.ofUrl "/search?q=a"))
    (fun c : Controller Unit => decide
      (c.deliveries (listedFirst (countedUnder credentialTypeField)) =
          [.choices kinds, .results (countedUnder credentialTypeField)] ∧
        c.deliveries (countedFirst (countedUnder credentialTypeField)) =
          [.results (countedUnder credentialTypeField), .choices kinds] ∧
        (c.run (listedFirst (countedUnder credentialTypeField))).filters.choices
          credentialTypeField = [⟨"1", "1 (2)", some 2⟩] ∧
        (c.run (countedFirst (countedUnder credentialTypeField))).filters.choices
          credentialTypeField = [⟨"1", "Registration", none⟩]))
    (by decide +kernel)
  exact ⟨c, hcreate, of_decide_eq_true hcheck⟩

end Controller

end RecordSearch
