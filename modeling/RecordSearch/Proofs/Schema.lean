import RecordSearch.Proofs.Json.Records
import RecordSearch.Proofs.Paging
import RecordSearch.Storage

/-!
# What was saved is what is loaded

The two directions of a form are written separately, so this is where they are
compared: each field is read under the key it is written with, what is read of a
number or a choice is what was written, and nothing that is written is misspelled.
Then the text goes back to the thing it was written of.

The other half is about texts that say less. Each form has a list of defaults, and
for each of its fields the default that is read where it is missing is what the
listed value is read as. In a declaration the choices can say less as well.
-/

namespace RecordSearch

open RecordSearch.Json

namespace Json

/-! ## Reading what a form holds -/

namespace Value

variable {α : Type}

theorem head?_toDigits_ne_zero {n : Nat} (h : 0 < n) : (Nat.toDigits 10 n).head? ≠ some '0' := by
  induction n using Nat.strongRecOn with
  | ind n ih =>
      rw [Nat.toDigits_eq_if (by decide)]
      split
      · next hlt =>
          have hdigits : ∀ m, m < 10 → 0 < m → [Nat.digitChar m].head? ≠ some '0' := by decide
          exact hdigits n hlt h
      · next hge =>
          rw [List.head?_append_of_ne_nil _ Nat.toDigits_ne_nil]
          exact ih (n / 10) (by omega) (by omega)

theorem isNumber_toDigits (n : Nat) : Token.isNumber (Nat.toDigits 10 n) = true := by
  have hdigits : ∀ c ∈ Nat.toDigits 10 n, Token.isDigit c = true := by
    intro c hc
    have hdigit := Text.isDigit_of_mem_toDigits hc
    simpa [Char.isDigit, Token.isDigit, Char.le_def] using hdigit
  rcases Nat.eq_zero_or_pos n with rfl | hpos
  · rfl
  · have hhead := head?_toDigits_ne_zero hpos
    cases hcs : Nat.toDigits 10 n with
    | nil => exact absurd hcs Nat.toDigits_ne_nil
    | cons c rest =>
        rw [hcs] at hhead hdigits
        have hrest : rest.dropWhile Token.isDigit = [] := by
          rw [List.dropWhile_eq_nil_iff]
          exact fun d hd => hdigits d (List.mem_cons_of_mem c hd)
        have hminus : c ≠ '-' := by
          rintro rfl
          exact absurd (hdigits '-' List.mem_cons_self) (by decide)
        have hzero : c ≠ '0' := by
          rintro rfl
          exact hhead rfl
        have hunsigned : Token.isUnsigned (c :: rest) = true := by
          rw [Token.isUnsigned.eq_def]
          split
          · next heq => exact absurd (List.cons.inj heq).1 hzero
          · next heq =>
              obtain ⟨rfl, rfl⟩ := List.cons.inj heq
              rw [hdigits c List.mem_cons_self, hrest]
              rfl
          · next heq => cases heq
        rw [Token.isNumber.eq_def]
        split
        · next heq => exact absurd (List.cons.inj heq).1 hminus
        · exact hunsigned

theorem wellSpelled_ofNat (n : Nat) : (ofNat n).WellSpelled :=
  .number (isNumber_toDigits n)

theorem natural?_ofNat {n bound : Nat} (h : n ≤ bound) : (ofNat n).natural? bound = some n := by
  rw [ofNat, natural?, Text.readDecimal_toDigits, Option.filter, if_pos (decide_eq_true h)]

theorem uint32?_ofNat (n : UInt32) : (ofNat n.toNat).uint32? = some n := by
  rw [uint32?, natural?_ofNat (Nat.le_sub_one_of_lt n.toNat_lt), Option.map_some,
    UInt32.ofNat_toNat]

theorem uint64?_ofNat (n : UInt64) : (ofNat n.toNat).uint64? = some n := by
  rw [uint64?, natural?_ofNat (Nat.le_sub_one_of_lt n.toNat_lt), Option.map_some,
    UInt64.ofNat_toNat]

theorem list?_map {item : Value → Option α} (toJson : α → Value)
    (h : ∀ a, item (toJson a) = some a) (xs : List α) :
    list? item (.array (xs.map toJson)) = some xs := by
  rw [list?]
  induction xs with
  | nil => rfl
  | cons a rest ih => rw [List.map_cons, List.mapM_cons, h, ih]; rfl

theorem list?_congr {item : Value → Option α} {items items' : List Value}
    (h : List.Forall₂ (fun v v' => item v = item v') items items') :
    list? item (.array items) = list? item (.array items') := by
  rw [list?, list?]
  induction h with
  | nil => rfl
  | cons hv _ ih => rw [List.mapM_cons, List.mapM_cons, hv, ih]

theorem optional?_of_ne_null {f : Value → Option α} {v : Value} (h : v ≠ .null) :
    optional? f v = (f v).map some := by
  cases v with
  | null => exact absurd rfl h
  | _ => rfl

theorem optional?_ofOption_text (s : Option String) :
    optional? text? (.ofOption .text s) = some s := by
  cases s with
  | none => rfl
  | some s => rfl

theorem wellSpelled_ofOption_text (s : Option String) : (ofOption .text s).WellSpelled := by
  cases s with
  | none => exact .null
  | some s => exact .text s

end Value

end Json

/-! ## The forms -/

namespace Choice

/-- The fields of a choice as they are written. -/
def written (choice : Choice) : Record :=
  [("value", .text choice.value), ("label", .text choice.label)] ++
    choice.count.toList.map fun count => ("count", .ofNat count.toNat)

theorem ofValue?_toJson (choice : Choice) :
    Record.ofValue? ["value", "label", "count"] choice.toJson = some choice.written := by
  obtain ⟨value, label, count⟩ := choice
  cases count with
  | none => rfl
  | some n => rfl

theorem optional_count (choice : Choice) :
    choice.written.optional "count" Value.uint64? = some choice.count := by
  obtain ⟨value, label, count⟩ := choice
  cases count with
  | none => rfl
  | some n =>
      have hnumber : Value.optional? Value.uint64? (.ofNat n.toNat) = some (some n) := by
        rw [Value.optional?_of_ne_null (by simp [Value.ofNat]), Value.uint64?_ofNat,
          Option.map_some]
      exact hnumber

theorem ofJson?_toJson (choice : Choice) : ofJson? choice.toJson = some choice := by
  have hvalue : choice.written.required "value" Value.text? = some choice.value := rfl
  have hlabel : choice.written.required "label" Value.text? = some choice.label := rfl
  rw [ofJson?, ofValue?_toJson]
  simp only [Option.bind_eq_bind, Option.bind_some, hvalue, hlabel, optional_count]
  rfl

theorem toJson_wellSpelled (choice : Choice) : choice.toJson.WellSpelled := by
  refine .object fun member hmember => ?_
  rcases List.mem_append.1 hmember with hmember | hmember
  · simp only [List.mem_cons, List.not_mem_nil, or_false] at hmember
    rcases hmember with rfl | rfl
    · exact .text _
    · exact .text _
  · obtain ⟨count, _, rfl⟩ := List.mem_map.1 hmember
    exact Value.wellSpelled_ofNat _

/-- What a choice has where nothing is written. -/
def defaults : Record :=
  [("count", .null)]

variable {sparse full : List (Option String × Value)}

theorem ofJson?_ofMembers (h : LeavesOut defaults sparse full) :
    ofJson? (.ofMembers full) = ofJson? (.ofMembers sparse) := by
  refine h.bind_ofValue? (by decide) (by decide) fun r r' hr => ?_
  have hcount : r'.optional "count" Value.uint64? = r.optional "count" Value.uint64? :=
    hr.defaulted rfl rfl
  rw [hr.required rfl, hr.required rfl, hcount]

/-- The same choice, or one that is written without its count and with it. -/
def Alike (v v' : Value) : Prop :=
  v = v' ∨ ∃ sparse full, LeavesOut defaults sparse full ∧ v = .ofMembers sparse ∧
    v' = .ofMembers full

theorem Alike.ofJson?_eq {v v' : Value} (h : Alike v v') : ofJson? v = ofJson? v' := by
  rcases h with rfl | ⟨sparse, full, hleaves, rfl, rfl⟩
  · rfl
  · exact (ofJson?_ofMembers hleaves).symm

end Choice

namespace FieldSpec

/-- The fields of a declaration as they are written. -/
def written (spec : FieldSpec) : Record := [
  ("name", .text spec.name),
  ("alias", .ofOption .text spec.aliasKey),
  ("label", .ofOption .text spec.label),
  ("hidden", .bool spec.hidden),
  ("default_value", .ofOption .text spec.defaultValue),
  ("options", .array (spec.choices.map Choice.toJson)),
  ("suppress_when_default", .bool spec.suppressDefault)]

theorem ofValue?_toJson (spec : FieldSpec) :
    Record.ofValue? ["name", "alias", "label", "hidden", "default_value", "options",
      "suppress_when_default"] spec.toJson = some spec.written := rfl

theorem ofJson?_toJson (spec : FieldSpec) : ofJson? spec.toJson = some spec := by
  have hname : spec.written.required "name" Value.text? = some spec.name := rfl
  have halias : spec.written.optional "alias" Value.text? = some spec.aliasKey :=
    Value.optional?_ofOption_text spec.aliasKey
  have hlabel : spec.written.optional "label" Value.text? = some spec.label :=
    Value.optional?_ofOption_text spec.label
  have hhidden : spec.written.defaulted "hidden" false Value.bool? = some spec.hidden := rfl
  have hdefault : spec.written.optional "default_value" Value.text? = some spec.defaultValue :=
    Value.optional?_ofOption_text spec.defaultValue
  have hchoices : spec.written.defaulted "options" [] (Value.list? Choice.ofJson?) =
      some spec.choices :=
    Value.list?_map Choice.toJson Choice.ofJson?_toJson spec.choices
  have hsuppress : spec.written.defaulted "suppress_when_default" true Value.bool? =
      some spec.suppressDefault := rfl
  rw [ofJson?, ofValue?_toJson]
  simp only [Option.bind_eq_bind, Option.bind_some, hname, halias, hlabel, hhidden, hdefault,
    hchoices, hsuppress]
  rfl

theorem toJson_wellSpelled (spec : FieldSpec) : spec.toJson.WellSpelled := by
  have hchoices : (Value.array (spec.choices.map Choice.toJson)).WellSpelled := by
    refine .array fun v hv => ?_
    obtain ⟨choice, _, rfl⟩ := List.mem_map.1 hv
    exact choice.toJson_wellSpelled
  refine .object fun member hmember => ?_
  simp only [List.mem_cons, List.not_mem_nil, or_false] at hmember
  rcases hmember with rfl | rfl | rfl | rfl | rfl | rfl | rfl
  · exact .text _
  · exact Value.wellSpelled_ofOption_text _
  · exact Value.wellSpelled_ofOption_text _
  · exact .bool _
  · exact Value.wellSpelled_ofOption_text _
  · exact hchoices
  · exact .bool _

/-- What a declaration has where nothing is written. -/
def defaults : Record :=
  [("alias", .null), ("label", .null), ("hidden", .bool false), ("default_value", .null),
    ("options", .array []), ("suppress_when_default", .bool true)]

variable {sparse full : List (Option String × Value)}

theorem ofJson?_ofMembers (h : LeavesOut defaults sparse full) :
    ofJson? (.ofMembers full) = ofJson? (.ofMembers sparse) := by
  refine h.bind_ofValue? (by decide) (by decide) fun r r' hr => ?_
  have hoptional (field : String) (hfield : defaults.lookup field = some .null) :
      r'.optional field Value.text? = r.optional field Value.text? :=
    hr.defaulted hfield rfl
  have hhidden : r'.defaulted "hidden" false Value.bool? = r.defaulted "hidden" false Value.bool? :=
    hr.defaulted rfl rfl
  have hchoices : r'.defaulted "options" [] (Value.list? Choice.ofJson?) =
      r.defaulted "options" [] (Value.list? Choice.ofJson?) :=
    hr.defaulted rfl rfl
  have hsuppress : r'.defaulted "suppress_when_default" true Value.bool? =
      r.defaulted "suppress_when_default" true Value.bool? :=
    hr.defaulted rfl rfl
  rw [hr.required rfl, hoptional "alias" rfl, hoptional "label" rfl, hhidden,
    hoptional "default_value" rfl, hchoices, hsuppress]

/-- The same value of a field, or choices of which each is alike. -/
def FieldAlike (field : String) (v v' : Value) : Prop :=
  v = v' ∨ field = "options" ∧ ∃ items items', List.Forall₂ Choice.Alike items items' ∧
    v = .array items ∧ v' = .array items'

theorem FieldAlike.eq {field : String} {v v' : Value} (h : FieldAlike field v v')
    (hfield : field ≠ "options") : v = v' := by
  rcases h with heq | ⟨hoptions, _⟩
  · exact heq
  · exact absurd hoptions hfield

theorem FieldAlike.choices {field : String} {v v' : Value} (h : FieldAlike field v v') :
    Value.list? Choice.ofJson? v = Value.list? Choice.ofJson? v' := by
  rcases h with rfl | ⟨_, items, items', hitems, rfl, rfl⟩
  · rfl
  · exact Value.list?_congr (hitems.imp fun _ _ hv => hv.ofJson?_eq)

/-- Members that differ in the choices at most, and in these only in what is left out. -/
theorem ofJson?_of_membersAlike (h : MembersAlike FieldAlike sparse full) :
    ofJson? (.ofMembers sparse) = ofJson? (.ofMembers full) := by
  refine h.bind_ofValue? fun r r' hr => ?_
  have hsame {β : Type} {field : String} (hfield : field ≠ "options") {f : Value → Option β} :
      ∀ v v', FieldAlike field v v' → f v = f v' := by
    intro v v' hv
    rw [hv.eq hfield]
  have hoptional (field : String) (hfield : field ≠ "options") :
      r.optional field Value.text? = r'.optional field Value.text? :=
    hr.defaulted (hsame hfield)
  have hbool (field : String) (d : Bool) (hfield : field ≠ "options") :
      r.defaulted field d Value.bool? = r'.defaulted field d Value.bool? :=
    hr.defaulted (hsame hfield)
  have hchoices : r.defaulted "options" [] (Value.list? Choice.ofJson?) =
      r'.defaulted "options" [] (Value.list? Choice.ofJson?) :=
    hr.defaulted fun _ _ hv => hv.choices
  rw [hr.required (hsame (by decide)), hoptional "alias" (by decide), hoptional "label" (by decide),
    hbool "hidden" false (by decide), hoptional "default_value" (by decide), hchoices,
    hbool "suppress_when_default" true (by decide)]

/-- Members of a declaration with less written in them: fields that have defaults are left
out, and counts of choices that have none. -/
def Shortens (sparse full : List (Option String × Value)) : Prop :=
  ∃ middle, LeavesOut defaults sparse middle ∧ MembersAlike FieldAlike middle full

theorem Shortens.ofJson?_eq (h : Shortens sparse full) :
    ofJson? (.ofMembers sparse) = ofJson? (.ofMembers full) := by
  obtain ⟨middle, hleaves, halike⟩ := h
  rw [← ofJson?_ofMembers hleaves, ofJson?_of_membersAlike halike]

end FieldSpec

namespace Parameters

/-- The only field of parameters as it is written. -/
def written (p : Parameters) : Record :=
  [("pairs", .array (p.pairs.map fun pair => .array [.text pair.1, .text pair.2]))]

theorem ofJson?_toJson (p : Parameters) : ofJson? p.toJson = some p := by
  have hrecord : Record.ofValue? ["pairs"] p.toJson = some p.written := rfl
  have hpair (pair : String × String) :
      pairOfJson? (.array [.text pair.1, .text pair.2]) = some pair := rfl
  have hpairs : p.written.required "pairs" (Value.list? pairOfJson?) = some p.pairs :=
    Value.list?_map _ hpair p.pairs
  rw [ofJson?, hrecord]
  simp only [Option.bind_eq_bind, Option.bind_some, hpairs]
  rfl

theorem toJson_wellSpelled (p : Parameters) : p.toJson.WellSpelled := by
  refine .object fun member hmember => ?_
  obtain rfl := List.mem_singleton.1 hmember
  refine .array fun v hv => ?_
  obtain ⟨pair, _, rfl⟩ := List.mem_map.1 hv
  refine .array fun w hw => ?_
  simp only [List.mem_cons, List.not_mem_nil, or_false] at hw
  rcases hw with rfl | rfl
  · exact .text _
  · exact .text _

end Parameters

namespace Settings

/-- The fields of settings as they are written. -/
def written (settings : Settings) : Record := [
  ("page_size", .ofNat settings.pageSize.toNat),
  ("typeahead_debounce_ms", .ofNat settings.debounce.toNat),
  ("suggestion_cache_size", .ofNat settings.cacheSize.toNat),
  ("log_level", .text settings.logLevel)]

theorem ofValue?_toJson (settings : Settings) :
    Record.ofValue? ["page_size", "typeahead_debounce_ms", "suggestion_cache_size", "log_level"]
      settings.toJson = some settings.written := rfl

theorem ofJson?_toJson (settings : Settings) : ofJson? settings.toJson = some settings := by
  have hpageSize : settings.written.defaulted "page_size" default.pageSize Value.uint32? =
      some settings.pageSize :=
    Value.uint32?_ofNat settings.pageSize
  have hdebounce : settings.written.defaulted "typeahead_debounce_ms" default.debounce
      Value.uint64? = some settings.debounce :=
    Value.uint64?_ofNat settings.debounce
  have hcacheSize : settings.written.defaulted "suggestion_cache_size" default.cacheSize
      Value.uint64? = some settings.cacheSize :=
    Value.uint64?_ofNat settings.cacheSize
  have hlogLevel : settings.written.defaulted "log_level" default.logLevel Value.text? =
      some settings.logLevel := rfl
  rw [ofJson?, ofValue?_toJson]
  simp only [Option.bind_eq_bind, Option.bind_some, hpageSize, hdebounce, hcacheSize, hlogLevel]
  rfl

theorem toJson_wellSpelled (settings : Settings) : settings.toJson.WellSpelled := by
  refine .object fun member hmember => ?_
  simp only [List.mem_cons, List.not_mem_nil, or_false] at hmember
  rcases hmember with rfl | rfl | rfl | rfl
  · exact Value.wellSpelled_ofNat _
  · exact Value.wellSpelled_ofNat _
  · exact Value.wellSpelled_ofNat _
  · exact .text _

theorem parse?_text (settings : Settings) : parse? settings.text = some settings := by
  rw [parse?, text, settings.toJson_wellSpelled.parse?_pretty, Option.bind_some, ofJson?_toJson]

/-- What settings have where nothing is written. -/
def defaults : Record :=
  [("page_size", .ofNat 10), ("typeahead_debounce_ms", .ofNat 200),
    ("suggestion_cache_size", .ofNat 32), ("log_level", .text "info")]

theorem ofJson?_ofMembers {sparse full : List (Option String × Value)}
    (h : LeavesOut defaults sparse full) :
    ofJson? (.ofMembers full) = ofJson? (.ofMembers sparse) := by
  refine h.bind_ofValue? (by decide) (by decide) fun r r' hr => ?_
  have hpageSize : r'.defaulted "page_size" default.pageSize Value.uint32? =
      r.defaulted "page_size" default.pageSize Value.uint32? :=
    hr.defaulted rfl (Value.uint32?_ofNat 10)
  have hdebounce : r'.defaulted "typeahead_debounce_ms" default.debounce Value.uint64? =
      r.defaulted "typeahead_debounce_ms" default.debounce Value.uint64? :=
    hr.defaulted rfl (Value.uint64?_ofNat 200)
  have hcacheSize : r'.defaulted "suggestion_cache_size" default.cacheSize Value.uint64? =
      r.defaulted "suggestion_cache_size" default.cacheSize Value.uint64? :=
    hr.defaulted rfl (Value.uint64?_ofNat 32)
  have hlogLevel : r'.defaulted "log_level" default.logLevel Value.text? =
      r.defaulted "log_level" default.logLevel Value.text? :=
    hr.defaulted rfl rfl
  rw [hpageSize, hdebounce, hcacheSize, hlogLevel]

end Settings

/-! ## Texts -/

namespace Json

variable {α : Type}

/-- Whether what is written of a thing, in one line or over several, reads back as it. -/
def ReadsBack (toJson : α → Value) (ofJson? : Value → Option α) : Prop :=
  ∀ a, (Value.parse? (toJson a).compact).bind ofJson? = some a ∧
    (Value.parse? (toJson a).pretty).bind ofJson? = some a

theorem ReadsBack.of_wellSpelled {toJson : α → Value} {ofJson? : Value → Option α}
    (hwell : ∀ a, (toJson a).WellSpelled) (hread : ∀ a, ofJson? (toJson a) = some a) :
    ReadsBack toJson ofJson? := by
  intro a
  rw [(hwell a).parse?_compact, (hwell a).parse?_pretty, Option.bind_some]
  exact ⟨hread a, hread a⟩

/-- Whether the texts of two objects are read alike, the one with the members `sparse` and
the other with the members `full`, wherever these are so related. -/
def ReadsEqually (ofJson? : Value → Option α)
    (related : List (Option String × Value) → List (Option String × Value) → Prop) : Prop :=
  ∀ sparse full, related sparse full → ∀ s t, Value.parse? s = some (.ofMembers sparse) →
    Value.parse? t = some (.ofMembers full) →
      (Value.parse? s).bind ofJson? = (Value.parse? t).bind ofJson?

theorem ReadsEqually.of_ofMembers {ofJson? : Value → Option α}
    {related : List (Option String × Value) → List (Option String × Value) → Prop}
    (h : ∀ sparse full, related sparse full →
      ofJson? (.ofMembers sparse) = ofJson? (.ofMembers full)) :
    ReadsEqually ofJson? related := by
  intro sparse full hrelated s t hs ht
  rw [hs, ht, Option.bind_some, Option.bind_some]
  exact h sparse full hrelated

end Json

/-- Settings, declarations and parameters read back from what is written of them. Settings
and declarations read the same whether fields that have defaults are left out, any of them,
or written with these; in the choices of a declaration the same holds of the counts. -/
theorem readsBack_and_readsEqually :
    (ReadsBack Settings.toJson Settings.ofJson? ∧
      ∀ settings : Settings, Settings.parse? settings.text = some settings) ∧
    ReadsBack FieldSpec.toJson FieldSpec.ofJson? ∧
    ReadsBack Parameters.toJson Parameters.ofJson? ∧
    ReadsEqually Settings.ofJson? (LeavesOut Settings.defaults) ∧
    ReadsEqually FieldSpec.ofJson? FieldSpec.Shortens := by
  refine ⟨⟨?_, Settings.parse?_text⟩, ?_, ?_, ?_, ?_⟩
  · exact .of_wellSpelled Settings.toJson_wellSpelled Settings.ofJson?_toJson
  · exact .of_wellSpelled FieldSpec.toJson_wellSpelled FieldSpec.ofJson?_toJson
  · exact .of_wellSpelled Parameters.toJson_wellSpelled Parameters.ofJson?_toJson
  · exact .of_ofMembers fun sparse full h => (Settings.ofJson?_ofMembers h).symm
  · exact .of_ofMembers fun sparse full h => h.ofJson?_eq

/-- Settings without a page size, and a declaration with neither an alias nor a count of its
only choice. -/
theorem readsEqually_with_defaults :
    Settings.parse? "\x7b\"log_level\":\"debug\"\x7d" =
      Settings.parse? "\x7b\"log_level\":\"debug\",\"page_size\":10\x7d" ∧
    (Value.parse? ("\x7b\"name\":\"n\",\"options\":[" ++
        "\x7b\"value\":\"v\",\"label\":\"l\"\x7d]\x7d")).bind FieldSpec.ofJson? =
      (Value.parse? ("\x7b\"alias\":null,\"name\":\"n\",\"options\":[" ++
        "\x7b\"count\":null,\"value\":\"v\",\"label\":\"l\"\x7d]\x7d")).bind FieldSpec.ofJson? := by
  have hsettings : LeavesOut Settings.defaults [(some "log_level", .text "debug")]
      [(some "log_level", .text "debug"), (some "page_size", .ofNat 10)] := by
    refine ⟨[("page_size", .ofNat 10)], ?_, ?_, .swap ..⟩
    · exact .cons_cons _ (List.nil_sublist _)
    · simp
  let choice := [(some "value", Value.text "v"), (some "label", Value.text "l")]
  have hchoice : LeavesOut Choice.defaults choice ((some "count", .null) :: choice) := by
    refine ⟨[("count", .null)], .refl _, ?_, .refl _⟩
    simp [choice]
  let declared := [(some "name", Value.text "n"), (some "options", .array [.ofMembers choice])]
  have hspec : FieldSpec.Shortens declared
      [(some "alias", .null), (some "name", .text "n"),
        (some "options", .array [.ofMembers ((some "count", .null) :: choice)])] := by
    refine ⟨(some "alias", .null) :: declared, ⟨[("alias", .null)], ?_, ?_, .refl _⟩, ?_⟩
    · exact .cons_cons _ (List.nil_sublist _)
    · simp [declared]
    · refine .cons ⟨rfl, fun _ _ => .inl rfl⟩ (.cons ⟨rfl, fun _ _ => .inl rfl⟩ ?_)
      refine .cons ⟨rfl, ?_⟩ .nil
      rintro _ ⟨⟩
      exact .inr ⟨rfl, _, _, .cons (.inr ⟨_, _, hchoice, rfl, rfl⟩) .nil, rfl, rfl⟩
  exact ⟨readsBack_and_readsEqually.2.2.2.1 _ _ hsettings _ _ rfl rfl,
    readsBack_and_readsEqually.2.2.2.2 _ _ hspec _ _ rfl rfl⟩

end RecordSearch
