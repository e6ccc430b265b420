import RecordSearch.Proofs.Controller.Sound

/-!
# What has happened since the last tick

A controller that lives keeps two things for its next tick: the changes that
wait in its feed and the number of refreshes asked for. Both are made by
actions of some kind, and both are used up by the tick, so each amounts to a
question about the run: has an action of this kind been carried out since the
last tick?

`SinceTick` is that question, asked of the run alone. Something that one step
makes, keeps or uses up accordingly is there after a run exactly if the answer
is yes.
-/

namespace RecordSearch.Controller

variable {ι : Type}

/-- Some action after the last tick of a run was of a kind, in the state in
which it was carried out. -/
def SinceTick (kind : Controller ι → Action ι → Prop) (c : Controller ι)
    (actions : List (Action ι)) : Prop :=
  ∃ before action after, actions = before ++ action :: after ∧
    (∀ later ∈ after, later ≠ .poll) ∧ kind (c.run before) action

theorem run_append (c : Controller ι) (before after : List (Action ι)) :
    c.run (before ++ after) = (c.run before).run after :=
  List.foldl_append

theorem run_concat (c : Controller ι) (actions : List (Action ι)) (action : Action ι) :
    c.run (actions ++ [action]) = (c.run actions).step action :=
  run_append c actions [action]

theorem sinceTick_concat {kind : Controller ι → Action ι → Prop} {c : Controller ι}
    {actions : List (Action ι)} {action : Action ι} :
    SinceTick kind c (actions ++ [action]) ↔
      kind (c.run actions) action ∨ (action ≠ .poll ∧ SinceTick kind c actions) := by
  constructor
  · rintro ⟨before, found, after, hsplit, hlater, hkind⟩
    rcases List.eq_nil_or_concat after with rfl | ⟨rest, last, rfl⟩
    · obtain ⟨rfl, hfound⟩ := List.append_inj' hsplit rfl
      cases hfound
      exact .inl hkind
    · rw [List.concat_eq_append, ← List.cons_append, ← List.append_assoc] at hsplit
      obtain ⟨hrest, hlast⟩ := List.append_inj' hsplit rfl
      cases hlast
      refine .inr ⟨hlater _ (by simp), before, found, rest, hrest, fun later hmem => ?_, hkind⟩
      exact hlater later (by simp [hmem])
  · rintro (hkind | ⟨hpoll, before, found, after, rfl, hlater, hkind⟩)
    · exact ⟨actions, action, [], rfl, by simp, hkind⟩
    · refine ⟨before, found, after ++ [action], by simp, fun later hmem => ?_, hkind⟩
      rcases List.mem_append.1 hmem with hmem | hmem
      · exact hlater later hmem
      · obtain rfl := List.mem_singleton.1 hmem
        exact hpoll

theorem not_sinceTick_nil {kind : Controller ι → Action ι → Prop} {c : Controller ι} :
    ¬ SinceTick kind c [] := by
  rintro ⟨before, action, after, hsplit, _⟩
  simp at hsplit

/-- Nothing of a kind that did not happen at all. -/
theorem SinceTick.exists {kind : Controller ι → Action ι → Prop} {c : Controller ι}
    {actions : List (Action ι)} (h : SinceTick kind c actions) :
    ∃ before action after, actions = before ++ action :: after ∧ kind (c.run before) action := by
  obtain ⟨before, action, after, hsplit, _, hkind⟩ := h
  exact ⟨before, action, after, hsplit, hkind⟩

/-- What the actions of a kind make, a tick uses up and all others keep, is
there as long as the controller lives exactly if one was carried out since the
last tick. -/
theorem kept_iff_sinceTick {kind : Controller ι → Action ι → Prop}
    (kept : Controller ι → Prop)
    (hstep : ∀ (c : Controller ι) (action : Action ι), c.Sound →
      (c.step action).phase ≠ .disposed →
        (kept (c.step action) ↔ kind c action ∨ (action ≠ .poll ∧ kept c)))
    {c : Controller ι} (hsound : c.Sound) (hstart : ¬ kept c) (actions : List (Action ι))
    (hlive : (c.run actions).phase ≠ .disposed) :
    kept (c.run actions) ↔ SinceTick kind c actions := by
  -- From the end of the run, since that is where a tick is the last one.
  induction actions using List.reverseRecOn with
  | nil => exact iff_of_false hstart not_sinceTick_nil
  | append_singleton actions action ih =>
      rw [run_concat] at hlive ⊢
      rw [hstep _ action (hsound.run actions) hlive, sinceTick_concat,
        ih (live_of_step hlive)]

end RecordSearch.Controller
