import RecordSearch.Proofs.Feed
import RecordSearch.Proofs.Filters.Address

/-!
# What is announced, and to whom

Filters announce on two feeds, and anybody may come, read at leisure, and leave,
at any time. Whatever the others do, each subscriber is given what was announced
since it came: every announcement once, in order, and none of the other feed.

The announcements themselves are described without the feeds. An update is
announced if it went through and some value in effect is different afterwards,
which is less than that something was stored: a default that is written into an
unset field is stored and not announced. One part of this is not obvious. The
announcement carries the values for a query, from which suppressed defaults are
missing, and yet two that follow each other never carry the same: the values in
effect can be told from the values for a query as well as from an address.
-/

namespace RecordSearch.Filters

variable {α β : Type} {fs start : Filters} {sub : Nat} {action : Action}
  {actions : List Action}

/-! ## Values and values in effect -/

theorem effectives_eq_of_values (fs : Filters) :
    fs.effectives = fs.specs.map fun spec => (fs.values.get? spec.name).or spec.defaultValue := by
  rw [effectives, specs, List.map_map]
  refine List.map_congr_left fun field hfield => ?_
  dsimp only [Function.comp]
  rw [get?_values hfield, FieldState.queryEntry]
  cases heff : field.effective with
  | none =>
      -- A field without a value in effect has no default either.
      rw [FieldState.effective, FieldSpec.effective, Option.or_eq_none_iff] at heff
      simp [heff.2]
  | some v =>
      dsimp only
      split
      · next hsuppressed =>
          have hdefault := FieldState.effective_of_atDefault (Bool.and_eq_true_iff.1 hsuppressed).2
          rw [← heff, hdefault]
          rfl
      · rfl

theorem values_eq_iff {fs gs : Filters} (hspecs : gs.specs = fs.specs) :
    gs.values = fs.values ↔ gs.effectives = fs.effectives := by
  constructor
  · intro h
    rw [effectives_eq_of_values, effectives_eq_of_values, hspecs, h]
  · intro h
    exact values_eq_of_standings (standings_eq_of_effectives hspecs h)

/-! ## Announcements -/

/-- The source of the values that an action brings. -/
def Action.source? : Action → Option Provenance
  | .assign _ source | .read _ source => some source
  | _ => none

/-- What an action has to announce to those who follow the values: an update that
goes through and changes some value in effect, with its source and the values
right after it. -/
def valueNews (fs : Filters) (action : Action) : List ValueChange :=
  match action.source?, fs.perform action with
  | some source, (.changed (.ok _), next) =>
      if next.effectives = fs.effectives then [] else [⟨next.values, source⟩]
  | _, _ => []

/-- What an action has to announce to those who follow the choices: choices that
are accepted for a field and are not those that were sent before. -/
def choicesNews (fs : Filters) (action : Action) : List ChoicesChange :=
  match action, (fs.perform action).1 with
  | .setChoices key choices, .choicesSet (.ok _) =>
      match fs.field? key with
      | some field => if field.fetched = some choices then [] else [⟨field.spec.name, choices⟩]
      | none => []
  | _, _ => []

/-- What a subscriber of the values is given by an action. -/
def valuesFor (sub : Nat) (fs : Filters) (action : Action) : List ValueChange :=
  match action, (fs.perform action).1 with
  | .onValues reading, .ofValues reply => if reading.reader? = some sub then reply.items else []
  | _, _ => []

/-- What a subscriber of the choices is given by an action. -/
def choicesFor (sub : Nat) (fs : Filters) (action : Action) : List ChoicesChange :=
  match action, (fs.perform action).1 with
  | .onChoices reading, .ofChoices reply => if reading.reader? = some sub then reply.items else []
  | _, _ => []

/-- What the actions of a run bring, one after another. -/
def collected (brings : Filters → Action → List β) (fs : Filters) : List Action → List β
  | [] => []
  | action :: rest => brings fs action ++ collected brings (fs.perform action).2 rest

/-! ## A step -/

/-- Whether an assignment is announced does not depend on its outcome: one that
is refused changes nothing. -/
theorem valueNews_assign (fs : Filters) (changes : Assignments) (source : Provenance) :
    fs.valueNews (.assign changes source) =
      if (fs.assign changes source).2.effectives = fs.effectives then []
      else [⟨(fs.assign changes source).2.values, source⟩] := by
  have hperform : fs.perform (.assign changes source) =
      (.changed (fs.assign changes source).1, (fs.assign changes source).2) := rfl
  rw [valueNews, hperform]
  rcases assign_cases fs changes source with ⟨e, heq⟩ | ⟨_, heq⟩ | ⟨_, heq⟩
  · rw [heq]
    exact (if_pos rfl).symm
  · rw [heq]
    rfl
  · rw [heq]
    rfl

theorem assign_publishes (fs : Filters) (changes : Assignments) (source : Provenance) :
    (fs.assign changes source).2.valueFeed =
      (fs.valueNews (.assign changes source)).foldl Feed.publish fs.valueFeed := by
  have hfeed := assign_valueFeed fs changes source
  rw [valueNews_assign]
  rcases assign_cases fs changes source with ⟨e, heq⟩ | ⟨hsame, heq⟩ | ⟨hne, heq⟩
  · rw [heq, if_pos rfl]
    rfl
  · rw [heq] at hfeed ⊢
    rw [if_pos hsame]
    exact hfeed
  · have hdiffers : ((fs.writeAll changes).announce source).effectives ≠ fs.effectives := hne
    rw [heq] at hfeed ⊢
    dsimp only at hfeed ⊢
    rw [if_neg hdiffers]
    exact hfeed

theorem setChoices_publishes (fs : Filters) (key : String) (choices : List Choice) :
    (fs.setChoices key choices).2.choicesFeed =
      (fs.choicesNews (.setChoices key choices)).foldl Feed.publish fs.choicesFeed := by
  simp only [choicesNews, perform, setChoices]
  split
  · rfl
  · cases hfield : fs.field? key with
    | none => rfl
    | some field =>
        by_cases hsent : field.fetched = some choices
        · simp [hfield, hsent]
        · simp only [if_neg hsent, hfield]
          rfl

/-- A subscriber of the values is given what comes first of what waited for it and
is announced now. -/
theorem valuesFor_append_waiting (hsub : fs.valueFeed.Subscribed sub)
    (hstays : action ≠ .onValues (.unsubscribe sub)) :
    (fs.perform action).2.valueFeed.Subscribed sub ∧
      valuesFor sub fs action ++ (fs.perform action).2.valueFeed.waiting sub =
        fs.valueFeed.waiting sub ++ fs.valueNews action := by
  cases action with
  | assign changes source =>
      have hpublished := hsub.publishAll (fs.valueNews (.assign changes source))
      rw [← assign_publishes] at hpublished
      exact hpublished
  | read params source =>
      have hpublished := hsub.publishAll
        (fs.valueNews (.assign (fs.assignmentsFrom params) source))
      rw [← assign_publishes] at hpublished
      exact hpublished
  | setChoices key choices =>
      have hquiet : (fs.perform (.setChoices key choices)).2.valueFeed = fs.valueFeed :=
        (setChoices_keeps fs key choices).2
      rw [hquiet]
      exact ⟨hsub, (List.append_nil _).symm⟩
  | onValues reading =>
      have hreads : reading ≠ .unsubscribe sub := fun heq => hstays (congrArg Action.onValues heq)
      have hquiet : fs.valueNews (.onValues reading) = [] := rfl
      refine ⟨hsub.perform hreads, ?_⟩
      rw [hquiet, List.append_nil]
      exact fs.valueFeed.given_append_waiting hreads
  | onChoices _ => exact ⟨hsub, (List.append_nil _).symm⟩
  | close => exact ⟨hsub, (List.append_nil _).symm⟩

theorem choicesFor_append_waiting (hsub : fs.choicesFeed.Subscribed sub)
    (hstays : action ≠ .onChoices (.unsubscribe sub)) :
    (fs.perform action).2.choicesFeed.Subscribed sub ∧
      choicesFor sub fs action ++ (fs.perform action).2.choicesFeed.waiting sub =
        fs.choicesFeed.waiting sub ++ fs.choicesNews action := by
  cases action with
  | assign changes source =>
      have hquiet : (fs.perform (.assign changes source)).2.choicesFeed = fs.choicesFeed :=
        assign_choicesFeed fs changes source
      rw [hquiet]
      exact ⟨hsub, (List.append_nil _).symm⟩
  | read params source =>
      have hquiet : (fs.perform (.read params source)).2.choicesFeed = fs.choicesFeed :=
        assign_choicesFeed fs _ source
      rw [hquiet]
      exact ⟨hsub, (List.append_nil _).symm⟩
  | setChoices key choices =>
      have hpublished := hsub.publishAll (fs.choicesNews (.setChoices key choices))
      rw [← setChoices_publishes] at hpublished
      exact hpublished
  | onValues _ => exact ⟨hsub, (List.append_nil _).symm⟩
  | onChoices reading =>
      have hreads : reading ≠ .unsubscribe sub :=
        fun heq => hstays (congrArg Action.onChoices heq)
      have hquiet : fs.choicesNews (.onChoices reading) = [] := rfl
      refine ⟨hsub.perform hreads, ?_⟩
      rw [hquiet, List.append_nil]
      exact fs.choicesFeed.given_append_waiting hreads
  | close => exact ⟨hsub, (List.append_nil _).symm⟩

/-- The values change exactly when there is something to announce, and the
announcement carries them as they are then. -/
theorem valueNews_cases (fs : Filters) (action : Action) :
    (fs.valueNews action = [] ∧ (fs.perform action).2.values = fs.values) ∨
    (∃ source, fs.valueNews action = [⟨(fs.perform action).2.values, source⟩] ∧
      (fs.perform action).2.values ≠ fs.values) := by
  have hassign (changes : Assignments) (source : Provenance) :
      (fs.valueNews (.assign changes source) = [] ∧
        (fs.assign changes source).2.values = fs.values) ∨
      (∃ source', fs.valueNews (.assign changes source) =
          [⟨(fs.assign changes source).2.values, source'⟩] ∧
        (fs.assign changes source).2.values ≠ fs.values) := by
    have hiff := values_eq_iff (assign_specs fs changes source)
    rw [valueNews_assign]
    split
    · next hsame => exact .inl ⟨rfl, hiff.2 hsame⟩
    · next hne => exact .inr ⟨source, rfl, fun hvalues => hne (hiff.1 hvalues)⟩
  cases action with
  | assign changes source => exact hassign changes source
  | read params source => exact hassign (fs.assignmentsFrom params) source
  | setChoices key choices =>
      refine .inl ⟨rfl, values_eq_of_standings (standings_eq_of_slots ?_)⟩
      exact (setChoices_keeps fs key choices).1
  | onValues _ | onChoices _ | close => exact .inl ⟨rfl, rfl⟩

/-! ## A run -/

/-- What holds of a queue in every step holds of it in a run: what was given out
of it and what is still in it are what was in it and what came since. -/
theorem collected_append_waiting {feed : Filters → Feed α}
    {gives news : Filters → Action → List α} {stays : Action → Prop}
    (hstep : ∀ fs action, (feed fs).Subscribed sub → stays action →
      (feed (fs.perform action).2).Subscribed sub ∧
        gives fs action ++ (feed (fs.perform action).2).waiting sub =
          (feed fs).waiting sub ++ news fs action)
    (hsub : (feed fs).Subscribed sub) (hstays : ∀ action ∈ actions, stays action) :
    collected gives fs actions ++ (feed (fs.run actions)).waiting sub =
      (feed fs).waiting sub ++ collected news fs actions := by
  induction actions generalizing fs with
  | nil => rw [collected, collected, List.append_nil]; rfl
  | cons action rest ih =>
      obtain ⟨hstill, hsplit⟩ := hstep fs action hsub (hstays action List.mem_cons_self)
      have hrest := ih hstill fun later hmem => hstays later (List.mem_cons_of_mem _ hmem)
      -- The queue between the first step and the rest is the only thing they share.
      calc gives fs action ++ collected gives (fs.perform action).2 rest ++
            (feed ((fs.perform action).2.run rest)).waiting sub
        _ = gives fs action ++ ((feed (fs.perform action).2).waiting sub ++
              collected news (fs.perform action).2 rest) := by rw [List.append_assoc, hrest]
        _ = (feed fs).waiting sub ++
              (news fs action ++ collected news (fs.perform action).2 rest) := by
            rw [← List.append_assoc, hsplit, List.append_assoc]

/-- Of announcements that follow each other, none carries the values of the one
before, and the last carries the values as they are. -/
theorem valueNews_chain (fs : Filters) (actions : List Action) :
    List.IsChain (· ≠ ·) (fs.values :: (collected valueNews fs actions).map (·.values)) ∧
      ((collected valueNews fs actions).map (·.values)).getLastD fs.values =
        (fs.run actions).values := by
  induction actions generalizing fs with
  | nil => exact ⟨.singleton _, rfl⟩
  | cons action rest ih =>
      obtain ⟨hchain, hlast⟩ := ih (fs.perform action).2
      rw [collected]
      rcases fs.valueNews_cases action with ⟨hnews, hsame⟩ | ⟨source, hnews, hne⟩
      · -- Nothing is announced, and the chain of the rest starts from the same values.
        rw [hnews, List.nil_append, ← hsame]
        exact ⟨hchain, hlast⟩
      · rw [hnews, List.singleton_append, List.map_cons]
        refine ⟨.cons_cons hne.symm hchain, ?_⟩
        rw [List.getLastD_cons]
        exact hlast

theorem collected_append (brings : Filters → Action → List β) (fs : Filters)
    (before after : List Action) :
    collected brings fs (before ++ after) =
      collected brings fs before ++ collected brings (fs.run before) after := by
  induction before generalizing fs with
  | nil => rfl
  | cons action rest ih =>
      rw [List.cons_append, collected, ih, ← List.append_assoc]
      rfl

/-! ## Closing -/

/-- Whether nothing can be announced any more, on either feed. -/
def Silent (fs : Filters) : Prop :=
  fs.valueFeed.closed = true ∧ fs.choicesFeed.closed = true

theorem silent_close (fs : Filters) : fs.close.Silent := ⟨rfl, rfl⟩

/-- Closed filters stay closed, and whatever is tried leaves them nothing to announce. -/
theorem Silent.perform (h : fs.Silent) (action : Action) :
    (fs.perform action).2.Silent ∧ fs.valueNews action = [] ∧ fs.choicesNews action = [] := by
  have hclosed : fs.isClosed = true := h.1
  have hassign (changes : Assignments) (source : Provenance) :
      fs.assign changes source = (.error .disposed, fs) := if_pos hclosed
  cases action with
  | assign changes source =>
      simp only [Filters.perform, valueNews, choicesNews, Action.source?, hassign, and_self,
        and_true]
      exact h
  | read params source =>
      simp only [Filters.perform, valueNews, choicesNews, Action.source?, readParameters, hassign,
        and_self, and_true]
      exact h
  | setChoices key choices =>
      have hset : fs.setChoices key choices = (.error .disposed, fs) := if_pos hclosed
      simp only [Filters.perform, valueNews, choicesNews, Action.source?, hset, and_self, and_true]
      exact h
  | onValues reading =>
      exact ⟨⟨(fs.valueFeed.perform_closed reading).trans h.1, h.2⟩, rfl, rfl⟩
  | onChoices reading =>
      exact ⟨⟨h.1, (fs.choicesFeed.perform_closed reading).trans h.2⟩, rfl, rfl⟩
  | close => exact ⟨silent_close fs, rfl, rfl⟩

theorem Silent.run (h : fs.Silent) (actions : List Action) :
    (fs.run actions).Silent ∧ collected valueNews fs actions = [] ∧
      collected choicesNews fs actions = [] := by
  induction actions generalizing fs with
  | nil => exact ⟨h, rfl, rfl⟩
  | cons action rest ih =>
      obtain ⟨hstill, hvalues, hchoices⟩ := h.perform action
      obtain ⟨hrun, hvalueNews, hchoicesNews⟩ := ih hstill
      refine ⟨hrun, ?_, ?_⟩
      · rw [collected, hvalues, hvalueNews, List.append_nil]
      · rw [collected, hchoices, hchoicesNews, List.append_nil]

theorem silent_run_of_close (fs : Filters) (h : Action.close ∈ actions) :
    (fs.run actions).Silent := by
  obtain ⟨before, after, rfl⟩ := List.append_of_mem h
  rw [run, List.foldl_append]
  exact ((silent_close (fs.run before)).run after).1

/-! ## What a subscriber can rely on -/

/-- A subscriber that came right before a run has been given what was announced in
it, but for what is due, and any way of reading finds that first. Once the filters
are closed nothing more is announced, and what is due can be read all the same. -/
structure Informed (feed : Filters → Feed α) (gives news : Filters → Action → List α)
    (sub : Nat) (start : Filters) (actions : List Action) (due : List α) : Prop where
  exact : collected gives start actions ++ due = collected news start actions
  owes : (feed (start.run actions)).Owes sub due
  silent : .close ∈ actions → (feed (start.run actions)).closed = true ∧
    ∀ later, collected news (start.run actions) later = []

theorem informed_of_steps {feed : Filters → Feed α} {gives news : Filters → Action → List α}
    {stays : Action → Prop}
    (hstep : ∀ fs action, (feed fs).Subscribed sub → stays action →
      (feed (fs.perform action).2).Subscribed sub ∧
        gives fs action ++ (feed (fs.perform action).2).waiting sub =
          (feed fs).waiting sub ++ news fs action)
    (hsilent : ∀ fs : Filters, fs.Silent →
      (feed fs).closed = true ∧ ∀ later, collected news fs later = [])
    (hcame : (feed start).Subscribed sub ∧ (feed start).waiting sub = [])
    (hstays : ∀ action ∈ actions, stays action) :
    Informed feed gives news sub start actions ((feed (start.run actions)).waiting sub) where
  exact := by
    rw [collected_append_waiting hstep hcame.1 hstays, hcame.2, List.nil_append]
  owes := Feed.owes_waiting _ sub
  silent := fun hclose => hsilent _ (silent_run_of_close start hclose)

theorem informed_values {before : Filters}
    (hcame : before.perform (.onValues .subscribe) = (.ofValues (.subscribed sub), start))
    (hstays : .onValues (.unsubscribe sub) ∉ actions) :
    Informed valueFeed (valuesFor sub) valueNews sub start actions
      ((start.run actions).valueFeed.waiting sub) := by
  have hempty : start.valueFeed.Subscribed sub ∧ start.valueFeed.waiting sub = [] := by
    cases hcame
    exact before.valueFeed.subscribed_subscribe
  exact informed_of_steps (fun _ _ => valuesFor_append_waiting)
    (fun fs hfs => ⟨hfs.1, fun later => (hfs.run later).2.1⟩) hempty
    fun action hmem heq => hstays (heq ▸ hmem)

theorem informed_choices {before : Filters}
    (hcame : before.perform (.onChoices .subscribe) = (.ofChoices (.subscribed sub), start))
    (hstays : .onChoices (.unsubscribe sub) ∉ actions) :
    Informed choicesFeed (choicesFor sub) choicesNews sub start actions
      ((start.run actions).choicesFeed.waiting sub) := by
  have hempty : start.choicesFeed.Subscribed sub ∧ start.choicesFeed.waiting sub = [] := by
    cases hcame
    exact before.choicesFeed.subscribed_subscribe
  exact informed_of_steps (fun _ _ => choicesFor_append_waiting)
    (fun fs hfs => ⟨hfs.2, fun later => (hfs.run later).2.2⟩) hempty
    fun action hmem heq => hstays (heq ▸ hmem)

theorem collected_drain {due : List ValueChange}
    (h : Informed valueFeed (valuesFor sub) valueNews sub start actions due) :
    collected (valuesFor sub) start (actions ++ [.onValues (.drain sub)]) =
      collected valueNews start actions := by
  have hdrained : valuesFor sub (start.run actions) (.onValues (.drain sub)) = due :=
    (if_pos rfl).trans h.owes.drain
  rw [collected_append, collected, hdrained, collected, List.append_nil, h.exact]

/-- Each subscriber of the values, for as long as it stays, is given every announced
change once and in order. No two that follow each other carry the same values,
and who has read everything knows the values as they are. The subscribers of the
choices are served in the same way with what concerns the choices. -/
theorem announcements_exact {before start : Filters} {sub : Nat} {actions : List Action}
    (hcame : before.perform (.onValues .subscribe) = (.ofValues (.subscribed sub), start))
    (hstays : .onValues (.unsubscribe sub) ∉ actions) :
    (∃ due, Informed valueFeed (valuesFor sub) valueNews sub start actions due ∧
      List.IsChain (· ≠ ·) (start.values :: (collected valueNews start actions).map (·.values)) ∧
      (due = [] → ((collected (valuesFor sub) start actions).map (·.values)).getLastD start.values =
        (start.run actions).values) ∧
      collected (valuesFor sub) start (actions ++ [.onValues (.drain sub)]) =
        collected valueNews start actions) ∧
    ∀ {before₂ start₂ : Filters} {sub₂ : Nat} {actions₂ : List Action},
      before₂.perform (.onChoices .subscribe) = (.ofChoices (.subscribed sub₂), start₂) →
      .onChoices (.unsubscribe sub₂) ∉ actions₂ →
      ∃ due, Informed choicesFeed (choicesFor sub₂) choicesNews sub₂ start₂ actions₂ due := by
  refine ⟨?_, fun hcame₂ hstays₂ => ⟨_, informed_choices hcame₂ hstays₂⟩⟩
  have hinformed := informed_values hcame hstays
  obtain ⟨hchain, hlast⟩ := valueNews_chain start actions
  refine ⟨_, hinformed, hchain, fun hdue => ?_, collected_drain hinformed⟩
  rw [← hlast, ← hinformed.exact, hdue, List.append_nil]

/-- A text and a status, open unless it is set otherwise. -/
def tickets : Filters where
  fields := [.unset (.named "text"),
    .unset { FieldSpec.named "status" with defaultValue := some "open" }]
  keys_nodup := by decide
  valueFeed := .empty
  choicesFeed := .empty

/-- Another subscriber comes and goes, the default is set by hand, choices arrive,
an unknown field is refused, and what is tried after the closing is too. -/
def crowded : List Action :=
  [.onValues .subscribe, .assign [("text", some " printer ")] .user,
    .assign [("status", some "open")] .user, .setChoices "status" [], .onValues (.next 0),
    .onValues (.unsubscribe 1), .assign [("text", none), ("colour", none)] .user,
    .read (.parse "?status=done&text=printer") .address, .close,
    .assign [("text", none)] .user]

theorem announcements_exact_of_crowded :
    (∃ start, tickets.perform (.onValues .subscribe) = (.ofValues (.subscribed 0), start) ∧
      .onValues (.unsubscribe 0) ∉ crowded ∧
      (collected valueNews start crowded).map (·.source) = [.user, .address] ∧
      (collected (valuesFor 0) start crowded).map (·.source) = [.user] ∧
      collected (valuesFor 0) start (crowded ++ [.onValues (.drain 0)]) =
        collected valueNews start crowded) ∧
    ∃ start due, tickets.perform (.onChoices .subscribe) = (.ofChoices (.subscribed 0), start) ∧
      collected (choicesFor 0) start crowded ++ due = [⟨"status", []⟩] := by
  have hstays : .onValues (.unsubscribe 0) ∉ crowded := by simp [crowded]
  have hstays₂ : .onChoices (.unsubscribe 0) ∉ crowded := by simp [crowded]
  obtain ⟨⟨_, _, _, _, hdrained⟩, hchoices⟩ := @announcements_exact tickets _ 0 crowded rfl hstays
  obtain ⟨due, hinformed⟩ := @hchoices tickets _ 0 crowded rfl hstays₂
  exact ⟨⟨_, rfl, hstays, by decide +kernel, by decide +kernel, hdrained⟩,
    _, due, rfl, hinformed.exact.trans (by decide +kernel)⟩

end RecordSearch.Filters
