import RecordSearch.AddressBar
import RecordSearch.Proofs.QueryText

/-!
# Going back to the address that is shown

The text of an address is cut twice. The path ends at the first question mark or
fragment, and the parameters are what `Parameters.parse` makes of the whole text,
which has to guess where the query begins. Parameters are written behind a
question mark, and then the guess is right for every path.

Without parameters there is no question mark, and the text is a path and nothing
else. The guess does not know this. It takes the path for a query unless there is
a slash in it and no equals sign; and a path that is read as a query brings
parameters that the address did not have, if any of its pieces has a key.
-/

namespace RecordSearch.AddressBar

open RecordSearch.Parameters

variable {path : String}

/-- Only the beginning of a query or a fragment ends a path. -/
def IsPath (path : String) : Prop :=
  ∀ c ∈ path.toList, c ≠ '?' ∧ c ≠ '#'

instance (path : String) : Decidable (IsPath path) :=
  List.decidableBAll (fun c => c ≠ '?' ∧ c ≠ '#') path.toList

theorem path_ofUrl_append (hpath : IsPath path) (p : Parameters) :
    (ofUrl (path ++ p.display)).path = path := by
  have hkept : ∀ c ∈ path.toList, (c != '?' && c != '#') = true := by
    intro c hc
    rw [Bool.and_eq_true, bne_iff_ne, bne_iff_ne]
    exact hpath c hc
  have hcut : pathPart (path ++ p.display).toList = path.toList := by
    rw [pathPart, String.toList_append, List.takeWhile_append_of_pos hkept]
    by_cases hnil : p.pairs = []
    · rw [display, if_pos hnil, String.toList_empty, List.takeWhile_nil, List.append_nil]
    · rw [toList_display hnil, List.takeWhile_cons_of_neg (by decide), List.append_nil]
  rw [ofUrl, showing, hcut, String.ofList_toList]

/-- A path that brings no parameters when it is read without a question mark. -/
def BringsNothing (path : String) : Prop :=
  ('/' ∈ path.toList ∧ '=' ∉ path.toList) ∨ Keyless path.toList

instance (path : String) : Decidable (BringsNothing path) :=
  inferInstanceAs (Decidable (('/' ∈ path.toList ∧ '=' ∉ path.toList) ∨ Keyless path.toList))

theorem parse_path_eq_empty_iff (hpath : IsPath path) :
    parse path = .empty ↔ BringsNothing path := by
  have hshown : beforeFragment path.toList = path.toList :=
    beforeFragment_of_not_mem fun hmem => (hpath '#' hmem).2 rfl
  have hquestion : '?' ∉ beforeFragment path.toList := by
    rw [hshown]
    intro hmem
    exact (hpath '?' hmem).1 rfl
  rw [parse_eq, Parameters.empty, Parameters.mk.injEq, queryPart_of_not_mem hquestion, hshown,
    BringsNothing]
  split
  · next hquery =>
      rw [queryPairs_eq_nil_iff, or_iff_right]
      rintro ⟨hslash, hequals⟩
      exact hquery.elim hequals fun h => h hslash
  · next hslash =>
      rw [not_or, Classical.not_not] at hslash
      exact iff_of_true queryPairs_nil (.inl ⟨hslash.2, hslash.1⟩)

/-- A piece in front of the first slash counts as any other. -/
example : BringsNothing "/en/search" ∧ BringsNothing "=/en&=" ∧ ¬ BringsNothing "search" := by
  decide +kernel

/-- The address that is shown leads back to its path always, and to its parameters
if and only if there are any, or the path brings none. -/
theorem ofUrl_url_iff (hpath : IsPath path) {p : Parameters} (hkeys : "" ∉ p.keys) :
    (ofUrl (showing path p).url).path = path ∧
      ((ofUrl (showing path p).url).current = p ↔ p ≠ .empty ∨ BringsNothing path) := by
  refine ⟨path_ofUrl_append hpath p, ?_⟩
  show parse (path ++ p.display) = p ↔ _
  by_cases hnil : p.pairs = []
  · obtain rfl : p = .empty := congrArg Parameters.mk hnil
    have hurl : path ++ display .empty = path := String.append_empty
    rw [hurl, parse_path_eq_empty_iff hpath]
    simp
  · have hne : p ≠ .empty := fun h => hnil (congrArg Parameters.pairs h)
    rw [parse_append_display hpath hnil, named_eq_self hkeys]
    exact iff_of_true rfl (.inl hne)

/-- Parameters with all the signs that cut. -/
def cuttingParameters : Parameters :=
  ⟨[("q", "what?"), ("a/b", "#"), ("q", "1&2=3")]⟩

theorem ofUrl_url_of_cuttingParameters :
    IsPath "/a=b" ∧ "" ∉ cuttingParameters.keys ∧
      (ofUrl (showing "/a=b" cuttingParameters).url).path = "/a=b" ∧
      (ofUrl (showing "/a=b" cuttingParameters).url).current = cuttingParameters := by
  have hpath : IsPath "/a=b" := by decide +kernel
  have hkeys : "" ∉ cuttingParameters.keys := by decide
  have hback := ofUrl_url_iff hpath hkeys
  exact ⟨hpath, hkeys, hback.1, hback.2.2 (.inl (by decide))⟩

/-- Without parameters the equals sign in the path makes it a query. -/
theorem current_ne_of_equals_in_path :
    IsPath "/a=b" ∧ "" ∉ Parameters.empty.keys ∧ (showing "/a=b" .empty).url = "/a=b" ∧
      (ofUrl (showing "/a=b" .empty).url).current = ⟨[("/a", "b")]⟩ ∧
      (ofUrl (showing "/a=b" .empty).url).current ≠ .empty := by
  decide +kernel

end RecordSearch.AddressBar
