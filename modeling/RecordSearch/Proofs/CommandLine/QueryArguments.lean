import RecordSearch.CommandLine.Run
import RecordSearch.Proofs.QueryText

/-!
# One argument, read by two commands

The command that shows parameters reads its argument as it is. The search command
first decides whether it was given an address, and makes an address of anything
else: leading question marks are taken off, and the rest is put behind a question
mark, so that all of it is the query.

The two agree on addresses, on a text behind one question mark, and on a text
without any that is not taken for a path. What they do not agree on is a question
mark further inside. Read as it is, the text is cut there; behind a question mark
of its own it is not. The difference shows in all cases but the few in which the
text in front of the cut would not be missed.
-/

namespace RecordSearch.CommandLine

open RecordSearch.Parameters

/-- An argument that the search command takes for an address. -/
def IsAddress (argument : List Char) : Prop :=
  argument.head? = some '/' ∨ Text.occursIn [':', '/', '/'] argument = true

/-- The arguments that both commands read alike. -/
inductive ReadsAlike (argument : List Char) : Prop
  | address (h : IsAddress argument)
  | marked {rest : List Char} (h : argument = '?' :: rest) (hone : rest.head? ≠ some '?')
  | bare (hmark : '?' ∉ beforeFragment argument)
      (hquery : '=' ∈ beforeFragment argument ∨ '/' ∉ beforeFragment argument)
  | overlooked {front back : List Char} (h : beforeFragment argument = front ++ '?' :: back)
      (hfirst : '?' ∉ front) (hmissed : Overlooked front back)

variable {argument : List Char}

/-- What the search command takes for the query in an argument that is no address. -/
def searchedPart (argument : List Char) : List Char :=
  beforeFragment (argument.dropWhile (· = '?'))

theorem isAddress_iff :
    (argument.head? = some '/' || Text.occursIn [':', '/', '/'] argument) = true ↔
      IsAddress argument := by
  rw [Bool.or_eq_true, decide_eq_true_eq, IsAddress]

theorem addressOf_of_isAddress {query : String} (h : IsAddress query.toList) :
    addressOf query = query := by
  rw [addressOf]
  exact if_pos (isAddress_iff.2 h)

theorem addressOf_of_not_isAddress {query : String} (h : ¬ IsAddress query.toList) :
    addressOf query = "/search?" ++ String.ofList (query.toList.dropWhile (· = '?')) := by
  rw [addressOf]
  exact if_neg (mt isAddress_iff.1 h)

theorem parse_addressOf {query : String} (h : ¬ IsAddress query.toList) :
    parse (addressOf query) = ⟨queryPairs (searchedPart query.toList)⟩ := by
  have htext : (addressOf query).toList =
      "/search?".toList ++ query.toList.dropWhile (· = '?') := by
    rw [addressOf_of_not_isAddress h, String.toList_append, String.toList_ofList,
      String.toList_ofList]
  have hshown : beforeFragment (addressOf query).toList =
      "/search".toList ++ '?' :: searchedPart query.toList := by
    rw [htext]
    exact beforeFragment_append (by decide +kernel) _
  rw [parse_eq, queryPart_of_question hshown (by decide +kernel)]

/-! ## Arguments without a question mark in front -/

theorem searchedPart_of_head (h : argument.head? ≠ some '?') :
    searchedPart argument = beforeFragment argument := by
  cases argument with
  | nil => rfl
  | cons c rest =>
      have hc : c ≠ '?' := fun hc => h (congrArg some hc)
      rw [searchedPart, List.dropWhile_cons_of_neg (by simpa using hc)]

theorem queryPairs_eq_iff_of_head (haddress : ¬ IsAddress argument)
    (hhead : argument.head? ≠ some '?') :
    queryPairs (queryPart argument) = queryPairs (searchedPart argument) ↔
      ReadsAlike argument := by
  rw [searchedPart_of_head hhead]
  constructor
  · intro heq
    by_cases hmark : '?' ∈ beforeFragment argument
    · obtain ⟨front, back, hcut, hfirst⟩ := List.eq_append_cons_of_mem hmark
      rw [queryPart_of_question hcut hfirst, hcut] at heq
      exact .overlooked hcut hfirst ((queryPairs_append_question_iff front back).1 heq.symm)
    · by_cases hquery : '=' ∈ beforeFragment argument ∨ '/' ∉ beforeFragment argument
      · exact .bare hmark hquery
      · -- A path brings nothing as it is, and its slash is part of a key behind a mark.
        rw [queryPart_of_not_mem hmark, if_neg hquery] at heq
        rw [not_or, Classical.not_not] at hquery
        have hkeyless := (queryPairs_eq_nil_iff _).1 heq.symm
        exact absurd (hkeyless.eq_amp hquery.1 hquery.2) (by decide)
  · intro halike
    cases halike with
    | address h => exact absurd h haddress
    | marked h _ =>
        subst h
        exact absurd rfl hhead
    | bare hmark hquery => rw [queryPart_of_not_mem hmark, if_pos hquery]
    | overlooked h hfirst hmissed =>
        rw [queryPart_of_question h hfirst, h]
        exact ((queryPairs_append_question_iff _ _).2 hmissed).symm

/-! ## Arguments behind question marks -/

theorem queryPart_question (rest : List Char) : queryPart ('?' :: rest) = beforeFragment rest := by
  have hshown : beforeFragment ('?' :: rest) = [] ++ '?' :: beforeFragment rest :=
    beforeFragment_question rest
  exact queryPart_of_question hshown List.not_mem_nil

theorem searchedPart_question (rest : List Char) :
    searchedPart ('?' :: rest) = searchedPart rest := rfl

/-- All marks but the last are left in front of what is searched. -/
theorem exists_marks (rest : List Char) :
    ∃ k, beforeFragment ('?' :: rest) = List.replicate k '?' ++ '?' :: searchedPart rest := by
  induction rest with
  | nil => exact ⟨0, rfl⟩
  | cons c rest ih =>
      by_cases hc : c = '?'
      · subst hc
        obtain ⟨k, hk⟩ := ih
        refine ⟨k + 1, ?_⟩
        exact congrArg ('?' :: ·) hk
      · have hhead : (c :: rest).head? ≠ some '?' := fun h => hc (Option.some.inj h)
        rw [searchedPart_of_head hhead]
        exact ⟨0, rfl⟩

theorem queryPairs_ne_of_two_marks (rest : List Char) :
    queryPairs (queryPart ('?' :: '?' :: rest)) ≠
      queryPairs (searchedPart ('?' :: '?' :: rest)) := by
  obtain ⟨k, hk⟩ := exists_marks rest
  rw [queryPart_question, hk, searchedPart_question, searchedPart_question, Ne,
    queryPairs_append_question_iff]
  rintro ⟨earlier, last, _, _, hmarks, _⟩
  have hequals : '=' ∈ List.replicate k '?' := by
    rw [hmarks]
    exact List.mem_append_right _ List.mem_cons_self
  exact absurd (List.eq_of_mem_replicate hequals) (by decide)

theorem not_readsAlike_of_two_marks {rest : List Char}
    (haddress : ¬ IsAddress ('?' :: '?' :: rest)) : ¬ ReadsAlike ('?' :: '?' :: rest) := by
  intro halike
  cases halike with
  | address h => exact haddress h
  | marked h hone =>
      obtain ⟨_, rfl⟩ := List.cons.inj h
      exact hone rfl
  | bare hmark _ => exact hmark List.mem_cons_self
  | @overlooked front back h hfirst hmissed =>
      cases front with
      | nil =>
          obtain ⟨earlier, _, _, _, hnil, _⟩ := hmissed
          exact absurd hnil.symm (by simp)
      | cons d front =>
          obtain ⟨rfl, _⟩ := List.cons.inj h
          exact hfirst List.mem_cons_self

/-! ## The two commands -/

/-- The two commands start from the same parameters exactly for these arguments. -/
theorem parse_eq_current_iff (query : String) :
    parse query = (AddressBar.ofUrl (addressOf query)).current ↔ ReadsAlike query.toList := by
  show parse query = parse (addressOf query) ↔ _
  by_cases haddress : IsAddress query.toList
  · rw [addressOf_of_isAddress haddress]
    exact iff_of_true rfl (.address haddress)
  · rw [parse_addressOf haddress, parse_eq, Parameters.mk.injEq]
    generalize query.toList = argument at haddress ⊢
    by_cases hhead : argument.head? = some '?'
    · obtain ⟨rest, rfl⟩ := List.head?_eq_some_iff.1 hhead
      by_cases hone : rest.head? = some '?'
      · obtain ⟨more, rfl⟩ := List.head?_eq_some_iff.1 hone
        exact iff_of_false (queryPairs_ne_of_two_marks more)
          (not_readsAlike_of_two_marks haddress)
      · rw [queryPart_question, searchedPart_question, searchedPart_of_head hone]
        exact iff_of_true rfl (.marked rfl hone)
    · exact queryPairs_eq_iff_of_head haddress hhead

/-- A question mark inside a value cuts off the query for one of the two. -/
theorem parse_ne_current_of_question_in_value :
    (parse "q=what?").pairs = [] ∧
      (AddressBar.ofUrl (addressOf "q=what?")).current.pairs = [("q", "what?")] ∧
      parse "q=what?" ≠ (AddressBar.ofUrl (addressOf "q=what?")).current := by
  decide +kernel

/-- The piece around the question mark has no key, and what is in front of it is
what is behind. -/
example : parse "q=a&=b?q=a" = (AddressBar.ofUrl (addressOf "q=a&=b?q=a")).current := by
  decide +kernel

end RecordSearch.CommandLine
