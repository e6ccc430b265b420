import RecordSearch.Proofs.Filters.KeyIndex

/-!
# Whose choices are shown

Choices come from two sides, from what is loaded at the start and from the
facets of every page of results, and both are written over what is there. Under
which key a field is meant, whether the same choices were sent before, and how
many keys address no field at all makes no difference to the outcome: a field
has the choices that were offered last for one of its keys, and those it had if
there were none.

So offers are told from their end, and a list of offers after another one is the
only thing that ever has to be taken apart.
-/

namespace RecordSearch

/-- Choices for fields, by name or alias, one after another. -/
abbrev Offers := List (String × List Choice)

namespace FieldSpec

variable {spec : FieldSpec}

/-- The choices that were offered last for a field. -/
def lastOffer? (spec : FieldSpec) (offers : Offers) : Option (List Choice) :=
  offers.reverse.findSome? fun offer => if spec.hasKey offer.1 then some offer.2 else none

theorem lastOffer?_append (spec : FieldSpec) (first second : Offers) :
    spec.lastOffer? (first ++ second) = (spec.lastOffer? second).or (spec.lastOffer? first) := by
  rw [lastOffer?, List.reverse_append, List.findSome?_append]
  rfl

theorem lastOffer?_cons (spec : FieldSpec) (offer : String × List Choice) (rest : Offers) :
    spec.lastOffer? (offer :: rest) =
      (spec.lastOffer? rest).or (if spec.hasKey offer.1 then some offer.2 else none) := by
  rw [← List.singleton_append, lastOffer?_append]
  congr 1
  exact List.findSome?_singleton

theorem lastOffer?_eq_none_iff {offers : Offers} :
    spec.lastOffer? offers = none ↔ ∀ offer ∈ offers, spec.hasKey offer.1 = false := by
  rw [lastOffer?, List.findSome?_eq_none_iff]
  simp

theorem lastOffer?_eq_some_iff {offers : Offers} {choices : List Choice} :
    spec.lastOffer? offers = some choices ↔
      ∃ before key after, offers = before ++ (key, choices) :: after ∧
        spec.hasKey key = true ∧ ∀ later ∈ after, spec.hasKey later.1 = false := by
  constructor
  · intro h
    obtain ⟨later, ⟨key, found⟩, earlier, hreverse, hmeant, hlater⟩ :=
      List.findSome?_eq_some_iff.1 h
    obtain ⟨hkey, rfl⟩ : spec.hasKey key = true ∧ found = choices := by simpa using hmeant
    refine ⟨earlier.reverse, key, later.reverse, ?_, hkey, fun other hother => ?_⟩
    · rw [← List.reverse_reverse offers, hreverse]
      simp
    · simpa using hlater other (List.mem_reverse.1 hother)
  · rintro ⟨before, key, after, rfl, hkey, hlater⟩
    rw [lastOffer?_append, lastOffer?_cons, lastOffer?_eq_none_iff.2 hlater, Option.none_or,
      if_pos hkey, Option.some_or]

end FieldSpec

/-- A field after offers. -/
def FieldState.offered (field : FieldState) (offers : Offers) : FieldState :=
  { field with fetched := (field.spec.lastOffer? offers).or field.fetched }

theorem FieldState.offered_append (field : FieldState) (first second : Offers) :
    field.offered (first ++ second) = (field.offered first).offered second := by
  rw [offered, FieldSpec.lastOffer?_append, Option.or_assoc]
  rfl

namespace Filters

variable {fs : Filters}

/-- The filters after offers, of which those for no field are made in vain. -/
def offer (fs : Filters) (offers : Offers) : Filters :=
  offers.foldl (fun fs offer => (fs.setChoices offer.1 offer.2).2) fs

theorem offer_append (fs : Filters) (first second : Offers) :
    fs.offer (first ++ second) = (fs.offer first).offer second :=
  List.foldl_append

theorem offer_cons (fs : Filters) (offer : String × List Choice) (rest : Offers) :
    fs.offer (offer :: rest) = (fs.setChoices offer.1 offer.2).2.offer rest := rfl

theorem setChoices_isClosed (fs : Filters) (key : String) (choices : List Choice) :
    (fs.setChoices key choices).2.isClosed = fs.isClosed := by
  rw [isClosed, (setChoices_keeps fs key choices).2, isClosed]

theorem field?_of_unknown {key : String} (h : fs.contains key = false) :
    fs.field? key = none := by
  rw [field?, List.find?_eq_none]
  exact List.any_eq_false.1 h

theorem setChoices_of_unknown {key : String} (h : fs.contains key = false)
    (choices : List Choice) : (fs.setChoices key choices).2 = fs := by
  rw [setChoices, field?_of_unknown h]
  split
  · rfl
  · rfl

theorem setChoices_fields (hopen : fs.isClosed = false) (offer : String × List Choice) :
    (fs.setChoices offer.1 offer.2).2.fields = fs.fields.map (·.offered [offer]) := by
  have hoffered (field : FieldState) : field.offered [offer] =
      if field.spec.hasKey offer.1 then { field with fetched := some offer.2 } else field := by
    rw [FieldState.offered, FieldSpec.lastOffer?_cons]
    by_cases hkey : field.spec.hasKey offer.1 = true
    · rw [if_pos hkey, if_pos hkey]
      rfl
    · rw [if_neg hkey, if_neg hkey]
      rfl
  cases hfield : fs.field? offer.1 with
  | some field =>
      rw [(setChoices_of_field? hopen hfield offer.2).2.1]
      exact List.map_congr_left fun other _ => (hoffered other).symm
  | none =>
      have hunknown : ∀ field ∈ fs.fields, ¬field.spec.hasKey offer.1 = true := by
        simpa [field?] using hfield
      have hvain : fs.contains offer.1 = false := List.any_eq_false.2 hunknown
      rw [setChoices_of_unknown hvain]
      refine (List.map_id _).symm.trans (List.map_congr_left fun field hmem => ?_)
      rw [hoffered, if_neg (hunknown field hmem), id]

/-- Whatever keys are used and however often, the last offer for a field counts. -/
theorem offer_fields (hopen : fs.isClosed = false) (offers : Offers) :
    (fs.offer offers).fields = fs.fields.map (·.offered offers) := by
  induction offers generalizing fs with
  | nil => exact (List.map_id _).symm
  | cons offer rest ih =>
      rw [offer_cons, ih ((setChoices_isClosed fs _ _).trans hopen),
        setChoices_fields hopen, List.map_map]
      refine List.map_congr_left fun field _ => ?_
      exact (field.offered_append [offer] rest).symm

/-- Offers for no field can be left out. -/
theorem offer_filter (fs : Filters) {offers : Offers} {kept : String × List Choice → Bool}
    (h : ∀ offer ∈ offers, kept offer = false → fs.contains offer.1 = false) :
    fs.offer (offers.filter kept) = fs.offer offers := by
  induction offers generalizing fs with
  | nil => rfl
  | cons offer rest ih =>
      have hrest (gs : Filters) (hspecs : gs.specs = fs.specs) :
          gs.offer (rest.filter kept) = gs.offer rest := by
        refine ih gs fun other hother hleft => ?_
        rw [contains_eq_of_specs hspecs]
        exact h other (List.mem_cons_of_mem _ hother) hleft
      cases hkept : kept offer with
      | true =>
          rw [List.filter_cons_of_pos hkept, offer_cons, offer_cons]
          exact hrest _ (setChoices_specs fs _ _)
      | false =>
          have hvain := h offer List.mem_cons_self hkept
          rw [List.filter_cons_of_neg (by simp [hkept]), offer_cons,
            setChoices_of_unknown hvain]
          exact hrest fs rfl

/-! ## What is on offer

Choices are not touched by anything that is done to the values, so they are
compared by themselves. -/

/-- The declarations with the choices that the backend has sent. -/
def menus (fs : Filters) : List (FieldSpec × Option (List Choice)) :=
  fs.fields.map fun field => (field.spec, field.fetched)

/-- The second filters have the choices of the first after offers. -/
def Takes (fs : Filters) (offers : Offers) (gs : Filters) : Prop :=
  gs.menus = fs.menus.map fun menu => (menu.1, (menu.1.lastOffer? offers).or menu.2)

theorem takes_of_menus {gs : Filters} (h : gs.menus = fs.menus) : fs.Takes [] gs := by
  rw [Takes, h]
  exact (List.map_id _).symm

theorem Takes.trans {gs hs : Filters} {first second : Offers} (h : fs.Takes first gs)
    (h' : gs.Takes second hs) : fs.Takes (first ++ second) hs := by
  rw [Takes] at h h' ⊢
  rw [h', h, List.map_map]
  refine List.map_congr_left fun menu _ => ?_
  rw [FieldSpec.lastOffer?_append, Option.or_assoc]
  rfl

theorem takes_offer (hopen : fs.isClosed = false) (offers : Offers) :
    fs.Takes offers (fs.offer offers) := by
  rw [Takes, menus, menus, offer_fields hopen, List.map_map, List.map_map]
  rfl

theorem assign_menus (fs : Filters) (changes : Assignments) (source : Provenance) :
    (fs.assign changes source).2.menus = fs.menus := by
  have hwrite : (fs.writeAll changes).menus = fs.menus := by
    rw [menus, writeAll_fields, List.map_map]
    rfl
  rcases assign_cases fs changes source with ⟨e, heq⟩ | ⟨_, heq⟩ | ⟨_, heq⟩
  · rw [heq]
  · rw [heq, hwrite]
  · rw [heq]
    exact hwrite

theorem mem_menus {spec : FieldSpec} {fetched : Option (List Choice)} :
    (spec, fetched) ∈ fs.menus ↔ ∃ field ∈ fs.fields, field.spec = spec ∧
      field.fetched = fetched := by
  rw [menus, List.mem_map]
  simp only [Prod.mk.injEq]

theorem choices_of_mem_menus {spec : FieldSpec} {fetched : Option (List Choice)}
    (h : (spec, fetched) ∈ fs.menus) {key : String} (hkey : spec.hasKey key = true) :
    fs.choices key = fetched.getD spec.choices := by
  obtain ⟨field, hfield, rfl, rfl⟩ := mem_menus.1 h
  rw [choices, field?_eq_some_iff.2 ⟨hfield, hkey⟩]
  rfl

/-- A field has the choices offered last for it, or else those that it had. -/
theorem Takes.choices {gs : Filters} {offers : Offers} (h : fs.Takes offers gs)
    {spec : FieldSpec} (hspec : spec ∈ fs.specs) {key : String} (hkey : spec.hasKey key = true) :
    gs.choices key = (spec.lastOffer? offers).getD (fs.choices key) := by
  obtain ⟨field, hfield, rfl⟩ := List.mem_map.1 hspec
  have hbefore : (field.spec, field.fetched) ∈ fs.menus := mem_menus.2 ⟨field, hfield, rfl, rfl⟩
  have hafter : (field.spec, (field.spec.lastOffer? offers).or field.fetched) ∈ gs.menus := by
    rw [h]
    exact List.mem_map_of_mem hbefore
  rw [choices_of_mem_menus hbefore hkey, choices_of_mem_menus hafter hkey]
  cases field.spec.lastOffer? offers with
  | none => rfl
  | some _ => rfl

theorem choices_of_unknown {key : String} (h : fs.contains key = false) :
    fs.choices key = [] := by
  rw [choices, field?_of_unknown h]

end Filters

end RecordSearch
