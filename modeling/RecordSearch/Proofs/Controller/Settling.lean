import RecordSearch.Proofs.Controller.AddressWrites
import RecordSearch.Proofs.Controller.SearchGate

/-!
# A tick settles

A tick has four parts, and each works on what the others may have left: a
refresh begins a search that is answered at once, an answer brings choices, and
so on. If one part could leave work for an earlier one, a program that ticks
while nothing happens would not come to rest, or would come to rest only after
some ticks.

That it rests after one is shown part by part. `Settled` says of each part that
there is nothing for it to do: nothing waits to be written, no refresh is asked
for, and a request that is still awaited has no answer. Each part leaves its own
work done, no later part makes new work for it, and a settled controller is not
changed by a tick at all.

The other half is about answers. Whatever a search brings, it is picked up by the
last part, past values, bar and searches. So a tick after an answer differs from
one without it only in what is shown and in the choices.
-/

namespace RecordSearch

namespace Controller

variable {ι : Type} {c d : Controller ι}

/-- There is nothing for a tick to do. -/
structure Settled (c : Controller ι) : Prop where
  written : c.pendingChanges = []
  served : c.refreshes = 0
  choices : ∀ number, c.preloadFlight = some number → (c.preloads.poll number).1 = .pending
  results : ∀ flight, c.flight = some flight → (c.searches.poll flight.number).1 = .pending

/-! ## Nothing to do -/

theorem syncAddress_of_written (h : c.pendingChanges = []) : c.syncAddress = c := by
  have hdrained : c.drained = c.filters := by
    rw [drained, Feed.drain_of_nil h]
  have hclean : c.isDirty = false := by rw [isDirty, h, List.any_nil]
  rw [syncAddress_eq, hclean, hdrained, if_neg fun hwrites => Bool.false_ne_true hwrites.1]

theorem serveRefreshes_of_served (h : c.refreshes = 0) : c.serveRefreshes = c := by
  rw [serveRefreshes, h]
  cases c
  cases h
  rfl

theorem collectChoices_of_pending
    (h : ∀ number, c.preloadFlight = some number → (c.preloads.poll number).1 = .pending) :
    c.collectChoices = c := by
  rw [collectChoices]
  split
  · rfl
  · next number hflight => rw [Desk.poll_of_pending (h number hflight)]

theorem collectResults_of_pending
    (h : ∀ flight, c.flight = some flight → (c.searches.poll flight.number).1 = .pending) :
    c.collectResults = c := by
  rw [collectResults]
  split
  · rfl
  · next flight hflight => rw [Desk.poll_of_pending (h flight hflight)]

theorem Settled.poll (h : c.Settled) : c.poll = c := by
  rw [Controller.poll]
  split
  · rfl
  · rw [syncAddress_of_written h.written, serveRefreshes_of_served h.served,
      collectChoices_of_pending h.choices, collectResults_of_pending h.results]

/-! ## Everything done -/

theorem dropPreload_flight (c : Controller ι) : c.dropPreload.preloadFlight = none := by
  rw [dropPreload_eq]

/-- The preload is awaited after a tick only if it has no answer yet. -/
theorem collectChoices_pending {number : Nat}
    (h : c.collectChoices.preloadFlight = some number) :
    (c.collectChoices.preloads.poll number).1 = .pending := by
  rw [collectChoices] at h ⊢
  split at h
  · next hnone =>
      rw [hnone] at h
      cases h
  · next awaited hawaited =>
      dsimp only at h ⊢
      split at h
      · next hpending =>
          obtain rfl : awaited = number := Option.some.inj (hawaited.symm.trans h)
          rw [Desk.poll_of_pending hpending]
          exact hpending
      · rw [dropPreload_flight] at h
        cases h
      · rw [dropPreload_flight] at h
        cases h
      · rw [dropPreload_flight] at h
        cases h

theorem collectResults_pending {flight : Flight} (h : c.collectResults.flight = some flight) :
    (c.collectResults.searches.poll flight.number).1 = .pending := by
  rw [collectResults] at h ⊢
  split at h
  · next hnone =>
      rw [hnone] at h
      cases h
  · next awaited hawaited =>
      dsimp only at h ⊢
      split at h
      · next hpending =>
          obtain rfl : awaited = flight := Option.some.inj (hawaited.symm.trans h)
          rw [Desk.poll_of_pending hpending]
          exact hpending
      · exact absurd (h.symm.trans (dropSearch_flight _)) (Option.some_ne_none _)
      · exact absurd (h.symm.trans (dropSearch_flight _)) (Option.some_ne_none _)
      · exact absurd (h.symm.trans (dropSearch_flight _)) (Option.some_ne_none _)

/-- Picking up results leaves the preload alone. -/
theorem collectResults_preload (c : Controller ι) :
    c.collectResults.preloadFlight = c.preloadFlight ∧
      c.collectResults.preloads = c.preloads := by
  have hdropped (d : Controller ι) :
      d.dropSearch.preloadFlight = d.preloadFlight ∧ d.dropSearch.preloads = d.preloads := by
    rw [dropSearch_eq]
    exact ⟨rfl, rfl⟩
  rw [collectResults]
  split
  · exact ⟨rfl, rfl⟩
  · dsimp only
    split
    · exact ⟨rfl, rfl⟩
    · exact hdropped _
    · exact hdropped _
    · exact hdropped _

theorem settled_poll (hlive : c.phase ≠ .disposed) : c.poll.Settled := by
  have hpoll : c.poll = c.syncAddress.serveRefreshes.collectChoices.collectResults := by
    rw [poll, if_neg hlive]
  have hpreload := collectResults_preload c.syncAddress.serveRefreshes.collectChoices
  refine ⟨?_, (poll_leads hlive).refreshes, fun number h => ?_, fun flight h => ?_⟩
  · rw [pendingChanges, (poll_offered hlive).valueFeed, syncAddress_filters]
    exact drained_waiting c
  · rw [hpoll, hpreload.1] at h
    rw [hpoll, hpreload.2]
    exact collectChoices_pending h
  · rw [hpoll] at h ⊢
    exact collectResults_pending h

/-- A second tick does nothing. -/
theorem poll_poll (c : Controller ι) : c.poll.poll = c.poll := by
  by_cases hlive : c.phase = .disposed
  · rw [poll_of_disposed hlive, poll_of_disposed hlive]
  · exact (settled_poll hlive).poll

/-! ## Answers -/

/-- The second controller has the values, the bar and the searches of the first. -/
structure Undisturbed (c d : Controller ι) : Prop where
  slots : d.filters.slots = c.filters.slots
  addressBar : d.addressBar = c.addressBar
  subjects : d.searches.subjects = c.searches.subjects

theorem collectResults_undisturbed (c : Controller ι) : Undisturbed c c.collectResults := by
  have hoffered := collectResults_offered c
  refine ⟨hoffered.slots, hoffered.addressBar, ?_⟩
  simpa [Searched] using (collectResults_leads c).searched

/-- What has become of the searches so far makes no difference to values, bar and
searches after a tick. -/
theorem poll_undisturbed (c : Controller ι) (searches : Desk Query (PageAnswer ι))
    (hsubjects : searches.subjects = c.searches.subjects) :
    Undisturbed c.poll ({ c with searches } : Controller ι).poll := by
  by_cases hlive : c.phase = .disposed
  · rw [poll_of_disposed hlive, poll_of_disposed (c := { c with searches }) hlive]
    exact ⟨rfl, rfl, hsubjects⟩
  · have hwithout := poll_offered hlive
    have hwith := poll_offered (c := { c with searches }) hlive
    rw [syncAddress_apart c c.form searches] at hwith
    have hslots := hwith.slots.trans hwithout.slots.symm
    refine ⟨hslots, hwith.addressBar.trans hwithout.addressBar.symm, ?_⟩
    -- Both begin a search under the same condition, and for the same values.
    have hquery := query_eq_of_standings (hwith.wiring.trans hwithout.wiring.symm)
      (Filters.standings_eq_of_slots hslots)
    rcases (poll_leads hlive).searched with ⟨hbegins, _, heq⟩ | ⟨hidle, heq⟩
    · rcases (poll_leads (c := { c with searches }) hlive).searched with
        ⟨_, _, heq'⟩ | ⟨hidle, _⟩
      · rw [heq, heq', hquery]
        exact congrArg (· ++ _) hsubjects
      · exact absurd hbegins hidle
    · rcases (poll_leads (c := { c with searches }) hlive).searched with
        ⟨hbegins, _⟩ | ⟨_, heq'⟩
      · exact absurd hbegins hidle
      · rw [heq, heq']
        exact hsubjects

/-- In any state a tick does all there is to do, and the next one changes nothing
whatsoever. What a search brings, picked up at once or at the next tick, changes no
value, leaves the bar alone and begins no search. -/
theorem poll_settles (c : Controller ι) :
    c.poll.poll = c.poll ∧ Undisturbed c c.collectResults ∧
    (∀ number outcome, Undisturbed c.poll (c.step (.complete number outcome)).poll) ∧
    (∀ number, Undisturbed c.poll (c.step (.abandon number)).poll) := by
  refine ⟨poll_poll c, collectResults_undisturbed c, fun number outcome => ?_, fun number => ?_⟩
  · refine poll_undisturbed c (c.searches.complete number outcome).2 ?_
    rw [Desk.complete_eq_touch, Desk.touch_subjects]
  · refine poll_undisturbed c (c.searches.abandon number).2 ?_
    rw [Desk.abandon_eq_touch, Desk.touch_subjects]

end Controller

end RecordSearch
