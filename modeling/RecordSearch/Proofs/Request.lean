import RecordSearch.Request

/-!
# What happens to requests

Everything that is done to a request at a desk leaves the other requests and
all subjects alone. `touch` is the one operation behind it, and says what a
desk looks like afterwards.

The two ends of a request stay apart. The answering side, described by
`Answering`, neither waits nor collects, and once nobody waits it cannot give an
answer any more; whether somebody waits is up to the waiting side alone.
-/

namespace RecordSearch

namespace Request

variable {α : Type}

/-- What the answering side can do to requests. -/
structure Answering (f : Request α → Request α) : Prop where
  awaited : ∀ r, (f r).awaited = r.awaited
  collected : ∀ r, (f r).collected = r.collected
  /-- Nothing is answered to nobody. -/
  answer : ∀ r, r.awaited = false → (f r).answer = r.answer
  /-- Whoever has answered or left has no further part in the request. -/
  answerable : ∀ r, r.answerable = false → f r = r

theorem answering_complete (a : α) : Answering fun r : Request α => (r.complete a).2 := by
  refine ⟨fun r => ?_, fun r => ?_, fun r h => ?_, fun r h => ?_⟩
  · dsimp only [complete]
    split
    · split
      · rfl
      · rfl
    · rfl
  · dsimp only [complete]
    split
    · split
      · rfl
      · rfl
    · rfl
  · dsimp only [complete]
    rw [h, if_neg Bool.false_ne_true]
    split
    · rfl
    · rfl
  · dsimp only [complete]
    rw [h, if_neg Bool.false_ne_true]

theorem answering_abandon : Answering fun r : Request α => r.abandon.2 := by
  refine ⟨fun _ => rfl, fun _ => rfl, fun _ _ => rfl, fun r h => ?_⟩
  cases r
  cases h
  rfl

theorem Answering.ite {f : Request α → Request α} (hf : Answering f) (p : Prop)
    [Decidable p] : Answering fun r => if p then f r else r := by
  by_cases hp : p
  · simpa [hp] using hf
  · simpa [hp] using ⟨fun _ => rfl, fun _ => rfl, fun _ _ => rfl, fun _ _ => rfl⟩

/-- Takes the answer. -/
def collect (r : Request α) : Request α :=
  { r with collected := true }

/-- Looking for an answer that is not there takes nothing. -/
theorem poll_of_pending {r : Request α} (h : r.poll.1 = .pending) : r.poll.2 = r := by
  rw [poll] at h ⊢
  split at h
  · cases h
  · rfl

/-- A request is awaited when it is opened, whatever its treatment. -/
theorem opening_awaited (treatment : Treatment α) :
    treatment.opening.awaited = true ∧ treatment.opening.collected = false := by
  cases treatment with
  | answer a => exact ⟨rfl, rfl⟩
  | hold => exact ⟨rfl, rfl⟩
  | abandon => exact ⟨rfl, rfl⟩

end Request

namespace Desk

variable {κ α : Type}

/-- Does something to the request with a number, if there is one. -/
def touch (d : Desk κ α) (number : Nat) (f : Request α → Request α) : Desk κ α :=
  { d with filed := d.filed.modify number fun entry => (entry.1, f entry.2) }

@[simp] theorem touch_size (d : Desk κ α) (number : Nat) (f : Request α → Request α) :
    (d.touch number f).size = d.size := by
  rw [size, touch, List.length_modify, size]

theorem getElem?_touch (d : Desk κ α) (number n : Nat) (f : Request α → Request α) :
    (d.touch number f).filed[n]? =
      d.filed[n]?.map fun entry => (entry.1, if number = n then f entry.2 else entry.2) := by
  rw [touch, List.getElem?_modify]
  split
  · rfl
  · rfl

theorem entry_touch {d : Desk κ α} {n : Nat} {subject : κ} {r : Request α}
    (h : d.filed[n]? = some (subject, r)) (number : Nat) (f : Request α → Request α) :
    (d.touch number f).filed[n]? = some (subject, if number = n then f r else r) := by
  rw [getElem?_touch, h]
  rfl

theorem getLast?_of_entry {d : Desk κ α} {n : Nat} (hn : n + 1 = d.size)
    {entry : κ × Request α} (h : d.filed[n]? = some entry) : d.filed.getLast? = some entry := by
  have hlast : d.filed.length - 1 = n := by
    rw [size] at hn
    omega
  rw [List.getLast?_eq_getElem?, hlast, h]

theorem touch_of_fixed {d : Desk κ α} {number : Nat} {f : Request α → Request α}
    {subject : κ} {r : Request α} (hentry : d.filed[number]? = some (subject, r))
    (hfixed : f r = r) : d.touch number f = d := by
  have hfiled : (d.touch number f).filed = d.filed := by
    refine List.ext_getElem? fun n => ?_
    rw [getElem?_touch]
    by_cases hn : number = n
    · rw [← hn, hentry, Option.map_some, if_pos rfl, hfixed]
    · simp [hn]
  cases d
  exact congrArg (Desk.mk _ · _) hfiled

theorem request?_of_entry {d : Desk κ α} {number : Nat} {subject : κ} {r : Request α}
    (h : d.filed[number]? = some (subject, r)) : d.request? number = some r := by
  rw [request?, h]
  rfl

/-- Replacing the state of a request by its image. -/
theorem put_eq_touch {d : Desk κ α} {number : Nat} {r : Request α}
    (h : d.request? number = some r) (f : Request α → Request α) :
    d.put number (f r) = d.touch number f := by
  obtain ⟨entry, hentry, rfl⟩ := Option.map_eq_some_iff.1 h
  have hfiled : (d.put number (f entry.2)).filed = (d.touch number f).filed := by
    refine List.ext_getElem? fun n => ?_
    rw [getElem?_touch, put, List.getElem?_modify]
    by_cases hn : number = n
    · subst hn
      simp [hentry]
    · simp [hn]
  exact congrArg (Desk.mk d.source · d.releases) hfiled

theorem touch_of_missing {d : Desk κ α} {number : Nat} (h : d.request? number = none)
    (f : Request α → Request α) : d.touch number f = d := by
  have hlen : d.filed.length ≤ number := by
    rw [request?, Option.map_eq_none_iff, List.getElem?_eq_none_iff] at h
    exact h
  rw [touch, List.modify_eq_self hlen]

theorem complete_eq_touch (d : Desk κ α) (number : Nat) (a : α) :
    (d.complete number a).2 = d.touch number fun r => (r.complete a).2 := by
  rw [complete]
  split
  · next r hr => exact put_eq_touch hr fun r => (r.complete a).2
  · next hnone => exact (touch_of_missing hnone _).symm

theorem abandon_eq_touch (d : Desk κ α) (number : Nat) :
    (d.abandon number).2 = d.touch number fun r => r.abandon.2 := by
  rw [abandon]
  split
  · next r hr => exact put_eq_touch hr fun r => r.abandon.2
  · next hnone => exact (touch_of_missing hnone _).symm

theorem withdraw_eq_touch (d : Desk κ α) (number : Nat) :
    d.withdraw number = d.touch number Request.withdraw := by
  rw [withdraw]
  split
  · next r hr => exact put_eq_touch hr Request.withdraw
  · next hnone => exact (touch_of_missing hnone _).symm

/-- Looking for an answer that is awaited and was not collected before. -/
theorem poll_of_awaited {d : Desk κ α} {number : Nat} {subject : κ} {r : Request α}
    (hentry : d.filed[number]? = some (subject, r)) (hawaited : r.awaited = true)
    (hcollected : r.collected = false) :
    d.poll number = match r.answer with
      | some a => (.ready a, d.touch number Request.collect)
      | none => (if r.answerable then .pending else .abandoned, d) := by
  have hrequest := request?_of_entry hentry
  cases hanswer : r.answer with
  | some a =>
      have hpoll : r.poll = (.ready a, r.collect) := by
        rw [Request.poll, Request.waiting?, Request.collect, hawaited, hcollected, hanswer]
        rfl
      rw [poll, hrequest]
      dsimp only
      rw [hpoll, put_eq_touch hrequest Request.collect]
  | none =>
      have hpoll : r.poll = (if r.answerable then .pending else .abandoned, r) := by
        rw [Request.poll, Request.waiting?, hawaited, hcollected, hanswer]
        rfl
      have hput : d.put number r = d :=
        (put_eq_touch hrequest id).trans (touch_of_fixed hentry rfl)
      rw [poll, hrequest]
      dsimp only
      rw [hpoll, hput]

theorem poll_of_pending {d : Desk κ α} {number : Nat} (h : (d.poll number).1 = .pending) :
    d.poll number = (.pending, d) := by
  rw [poll] at h ⊢
  split at h
  · next r hr =>
      have hput : d.put number r = d := by
        obtain ⟨⟨subject, s⟩, hentry, rfl⟩ := Option.map_eq_some_iff.1 hr
        exact (put_eq_touch hr id).trans (touch_of_fixed hentry rfl)
      dsimp only at h ⊢
      rw [h, Request.poll_of_pending h, hput]
  · cases h

/-- An answer to a request that nobody awaits is refused. -/
theorem complete_of_not_awaited {d : Desk κ α} {number : Nat} {subject : κ} {r : Request α}
    (hentry : d.filed[number]? = some (subject, r)) (hawaited : r.awaited = false) (a : α) :
    (d.complete number a).1 = if r.answerable then some (.error .canceled) else none := by
  rw [complete, request?_of_entry hentry]
  dsimp only
  rw [Request.complete, hawaited, if_neg Bool.false_ne_true]
  split
  · rfl
  · rfl

theorem file_size (d : Desk κ α) (subject : κ) : (d.file subject).size = d.size + 1 := by
  rw [size, file, List.length_append, size]
  rfl

/-- A filed request is the last one at its desk. -/
theorem getElem?_file (d : Desk κ α) (subject : κ) (n : Nat) :
    (d.file subject).filed[n]? =
      if n = d.size then some (subject, (d.source d.size subject).opening)
      else d.filed[n]? := by
  rw [file, List.getElem?_append]
  by_cases hn : n = d.size
  · rw [if_pos hn, if_neg (by rw [hn]; exact Nat.lt_irrefl _), hn, size, Nat.sub_self]
    rfl
  · rw [if_neg hn]
    split
    · rfl
    · next hge =>
        have hlen : d.filed.length < n := by
          rw [size] at hn
          omega
        rw [List.getElem?_eq_none (by simp only [List.length_singleton]; omega),
          List.getElem?_eq_none (by omega)]

theorem touch_touch (d : Desk κ α) (number : Nat) (f g : Request α → Request α) :
    (d.touch number f).touch number g = d.touch number (g ∘ f) := by
  have hfiled : ((d.touch number f).touch number g).filed =
      (d.touch number (g ∘ f)).filed := by
    refine List.ext_getElem? fun n => ?_
    rw [getElem?_touch, getElem?_touch, getElem?_touch, Option.map_map]
    congr 1
    funext entry
    by_cases hn : number = n
    · simp [hn]
    · simp [hn]
  exact congrArg (Desk.mk d.source · d.releases) hfiled

theorem touch_concat (d : Desk κ α) (subject : κ) (r : Request α)
    (f : Request α → Request α) :
    ({ d with filed := d.filed ++ [(subject, r)] } : Desk κ α).touch d.size f =
      { d with filed := d.filed ++ [(subject, f r)] } := by
  have hfiled : (d.filed ++ [(subject, r)]).modify d.size (fun entry => (entry.1, f entry.2)) =
      d.filed ++ [(subject, f r)] := by
    rw [List.modify_eq_take_cons_drop (by simp [size])]
    simp [size]
  rw [touch, hfiled]

theorem touch_file (d : Desk κ α) (subject : κ) (f : Request α → Request α) :
    (d.file subject).touch d.size f =
      { d with filed := d.filed ++ [(subject, f (d.source d.size subject).opening)] } :=
  d.touch_concat subject _ f

/-- Looking for the answer to a request may take it and does nothing else. -/
theorem poll_eq_touch (d : Desk κ α) (number : Nat) :
    (d.poll number).2 = d.touch number fun r => r.poll.2 := by
  rw [poll]
  split
  · next r hr => exact put_eq_touch hr fun r => r.poll.2
  · next hnone => exact (touch_of_missing hnone _).symm

/-! ## Who waits

Somebody waits for one request at most if each is withdrawn before the next is
filed. Whatever else becomes of requests makes nobody wait. -/

/-- No request but the one with a given number is awaited. -/
def AwaitsOnly (d : Desk κ α) (awaited : Option Nat) : Prop :=
  ∀ n subject r, d.filed[n]? = some (subject, r) → r.awaited = true → awaited = some n

theorem awaitsOnly_ofSource (source : Nat → κ → Treatment α) (awaited : Option Nat) :
    (ofSource source).AwaitsOnly awaited := by
  intro n subject r hentry
  cases hentry

theorem AwaitsOnly.touch {d : Desk κ α} {awaited : Option Nat} (h : d.AwaitsOnly awaited)
    (number : Nat) {f : Request α → Request α}
    (hf : ∀ r, (f r).awaited = true → r.awaited = true) :
    (d.touch number f).AwaitsOnly awaited := by
  intro n subject r hentry hawaited
  rw [getElem?_touch] at hentry
  obtain ⟨⟨old, s⟩, hold, heq⟩ := Option.map_eq_some_iff.1 hentry
  cases heq
  refine h n old s hold ?_
  split at hawaited
  · exact hf s hawaited
  · exact hawaited

theorem AwaitsOnly.poll {d : Desk κ α} {awaited : Option Nat} (h : d.AwaitsOnly awaited)
    (number : Nat) : (d.poll number).2.AwaitsOnly awaited := by
  rw [poll_eq_touch]
  refine h.touch number fun r hr => ?_
  rw [Request.poll] at hr
  split at hr
  · exact hr
  · exact hr

theorem AwaitsOnly.complete {d : Desk κ α} {awaited : Option Nat} (h : d.AwaitsOnly awaited)
    (number : Nat) (a : α) : (d.complete number a).2.AwaitsOnly awaited := by
  rw [complete_eq_touch]
  exact h.touch number fun r hr => ((Request.answering_complete a).awaited r).symm.trans hr

theorem AwaitsOnly.abandon {d : Desk κ α} {awaited : Option Nat} (h : d.AwaitsOnly awaited)
    (number : Nat) : (d.abandon number).2.AwaitsOnly awaited := by
  rw [abandon_eq_touch]
  exact h.touch number fun r hr => (Request.answering_abandon.awaited r).symm.trans hr

/-- Once the awaited request is withdrawn nobody waits. -/
theorem AwaitsOnly.withdraw {d : Desk κ α} {number : Nat} (h : d.AwaitsOnly (some number)) :
    (d.withdraw number).AwaitsOnly none := by
  intro n subject r hentry hawaited
  rw [withdraw_eq_touch, getElem?_touch] at hentry
  obtain ⟨⟨old, s⟩, hold, heq⟩ := Option.map_eq_some_iff.1 hentry
  cases heq
  split at hawaited
  · cases hawaited
  · next hne => exact absurd (Option.some.inj (h n old s hold hawaited)) hne

theorem AwaitsOnly.file {d : Desk κ α} (h : d.AwaitsOnly none) (subject : κ) :
    (d.file subject).AwaitsOnly (some d.size) := by
  intro n asked r hentry hawaited
  rw [getElem?_file] at hentry
  split at hentry
  · next hn => rw [hn]
  · cases h n asked r hentry hawaited

/-- Whoever answers a request that is not awaited is refused. -/
theorem AwaitsOnly.refuses {d : Desk κ α} {awaited : Option Nat} (h : d.AwaitsOnly awaited)
    {n : Nat} {subject : κ} {r : Request α} (hentry : d.filed[n]? = some (subject, r))
    (hother : awaited ≠ some n) (a : α) :
    (d.complete n a).1 = if r.answerable then some (.error .canceled) else none :=
  complete_of_not_awaited hentry
    (eq_false_of_ne_true fun hawaited => hother (h n subject r hentry hawaited)) a

/-- A request for something that nobody awaits, and whose answer nobody took. -/
def Unheard (d : Desk κ α) (number : Nat) (subject : κ) : Prop :=
  ∃ r, d.filed[number]? = some (subject, r) ∧ r.awaited = false ∧ r.collected = false

/-- Nothing that leaves requests alone that are not awaited brings one back. -/
theorem Unheard.touch {d : Desk κ α} {n : Nat} {subject : κ} (h : d.Unheard n subject)
    (number : Nat) {f : Request α → Request α}
    (hf : ∀ r, r.awaited = false → (f r).awaited = false ∧ (f r).collected = r.collected) :
    (d.touch number f).Unheard n subject := by
  obtain ⟨r, hentry, hawaited, hcollected⟩ := h
  refine ⟨_, entry_touch hentry number f, ?_⟩
  split
  · exact ⟨(hf r hawaited).1, (hf r hawaited).2.trans hcollected⟩
  · exact ⟨hawaited, hcollected⟩

theorem Unheard.answering {d : Desk κ α} {n : Nat} {subject : κ} (h : d.Unheard n subject)
    (number : Nat) {f : Request α → Request α} (hf : Request.Answering f) :
    (d.touch number f).Unheard n subject :=
  h.touch number fun r hawaited => ⟨(hf.awaited r).trans hawaited, hf.collected r⟩

theorem Unheard.poll {d : Desk κ α} {n : Nat} {subject : κ} (h : d.Unheard n subject)
    (number : Nat) : (d.poll number).2.Unheard n subject := by
  rw [poll_eq_touch]
  refine h.touch number fun r hawaited => ?_
  have hnothing : r.waiting? = none := by
    rw [Request.waiting?, hawaited]
    rfl
  rw [Request.poll, hnothing]
  exact ⟨hawaited, rfl⟩

theorem Unheard.withdraw {d : Desk κ α} {n : Nat} {subject : κ} (h : d.Unheard n subject)
    (number : Nat) : (d.withdraw number).Unheard n subject := by
  rw [withdraw_eq_touch]
  exact h.touch number fun _ _ => ⟨rfl, rfl⟩

theorem Unheard.file {d : Desk κ α} {n : Nat} {subject : κ} (h : d.Unheard n subject)
    (other : κ) : (d.file other).Unheard n subject := by
  obtain ⟨r, hentry, hawaited, hcollected⟩ := h
  obtain ⟨hlt, _⟩ := List.getElem?_eq_some_iff.1 hentry
  refine ⟨r, ?_, hawaited, hcollected⟩
  have hn : n ≠ d.size := Nat.ne_of_lt hlt
  rw [getElem?_file, if_neg hn, hentry]

/-! What was asked for is not changed by anything that becomes of it, and neither
is how often the desk was released. -/

theorem subjects_modify (d : Desk κ α) (number : Nat) (f : Request α → Request α) :
    (d.filed.modify number fun entry => (entry.1, f entry.2)).map (·.1) = d.subjects := by
  refine List.ext_getElem? fun n => ?_
  rw [subjects, List.getElem?_map, List.getElem?_map, List.getElem?_modify]
  cases d.filed[n]? with
  | none => rfl
  | some entry =>
      by_cases hn : number = n
      · simp [hn]
      · simp [hn]

theorem length_subjects (d : Desk κ α) : d.subjects.length = d.size :=
  List.length_map _

@[simp] theorem touch_subjects (d : Desk κ α) (number : Nat) (f : Request α → Request α) :
    (d.touch number f).subjects = d.subjects :=
  subjects_modify d number f

@[simp] theorem poll_subjects (d : Desk κ α) (number : Nat) :
    (d.poll number).2.subjects = d.subjects := by
  rw [poll_eq_touch, touch_subjects]

@[simp] theorem file_subjects (d : Desk κ α) (subject : κ) :
    (d.file subject).subjects = d.subjects ++ [subject] := by
  simp [subjects, file]

theorem complete_subjects (d : Desk κ α) (number : Nat) (a : α) :
    (d.complete number a).2.subjects = d.subjects := by
  rw [complete_eq_touch, touch_subjects]

theorem abandon_subjects (d : Desk κ α) (number : Nat) :
    (d.abandon number).2.subjects = d.subjects := by
  rw [abandon_eq_touch, touch_subjects]

theorem withdraw_subjects (d : Desk κ α) (number : Nat) :
    (d.withdraw number).subjects = d.subjects := by
  rw [withdraw_eq_touch, touch_subjects]

theorem poll_releases (d : Desk κ α) (number : Nat) :
    (d.poll number).2.releases = d.releases := by
  rw [poll_eq_touch]
  rfl

theorem complete_releases (d : Desk κ α) (number : Nat) (a : α) :
    (d.complete number a).2.releases = d.releases := by
  rw [complete_eq_touch]
  rfl

theorem abandon_releases (d : Desk κ α) (number : Nat) :
    (d.abandon number).2.releases = d.releases := by
  rw [abandon_eq_touch]
  rfl

theorem withdraw_releases (d : Desk κ α) (number : Nat) :
    (d.withdraw number).releases = d.releases := by
  rw [withdraw_eq_touch]
  rfl

end Desk

end RecordSearch
