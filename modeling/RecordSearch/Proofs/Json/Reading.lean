import RecordSearch.Json.Reader
import RecordSearch.Proofs.Json.Scanning

/-!
# Reading what was written

The reader has a stack where the writer has a recursion, so what it makes of the
tokens of a value is told from the middle of its work: whatever is open around it,
it ends up where delivering the value leads. An array or an object closes with what
it has gathered, and that is its content in the right order.

With the scan before it this says that a text that was written of a value reads back
as the value, in either layout.
-/

namespace RecordSearch.Json

/-- A member of an object as the reader gathers it; every key that is written is a
text. -/
def Value.keyed (member : String × Value) : Option String × Value :=
  (some member.1, member.2)

namespace Reader

theorem run?_append (r : Reader) (first second : List Token) :
    r.run? (first ++ second) = (r.run? first).bind (·.run? second) := by
  induction first generalizing r with
  | nil => rfl
  | cons t rest ih =>
      rw [List.cons_append, run?, run?]
      cases r.step? t with
      | none => rfl
      | some next => exact ih next

theorem run?_cons {r next : Reader} {t : Token} (h : r.step? t = some next) (rest : List Token) :
    r.run? (t :: rest) = next.run? rest := by
  rw [run?, h]

theorem run?_singleton (r : Reader) (t : Token) : r.run? [t] = r.step? t := by
  rw [run?]
  cases r.step? t with
  | none => rfl
  | some next => rfl

/-- Neither the first item of an array nor an item behind a comma is taken for the end. -/
theorem run?_tokens_itemOrEnd (v : Value) (stack : List Frame) :
    run? ⟨stack, .itemOrEnd⟩ v.tokens = run? ⟨stack, .value⟩ v.tokens := by
  have hcons : ∃ t rest, v.tokens = t :: rest ∧ t ≠ .closeArray := by
    rcases v with _ | _ | _ | _ | ⟨_ | _⟩ | ⟨_ | _⟩ | _
    all_goals exact ⟨_, _, rfl, by simp⟩
  obtain ⟨t, rest, htokens, hne⟩ := hcons
  rw [htokens, run?, run?, step?, step?]
  dsimp only
  rw [if_neg hne]

theorem run?_itemTokens {items : List Value}
    (hitems : ∀ v ∈ items, ∀ stack, run? ⟨stack, .value⟩ v.tokens = deliver v stack)
    (read : List Value) (stack : List Frame) :
    run? ⟨.array read :: stack, .separator⟩ (Value.itemTokens items) =
      some ⟨.array (items.reverse ++ read) :: stack, .separator⟩ := by
  induction items generalizing read with
  | nil => rfl
  | cons v items ih =>
      rw [Value.itemTokens, List.cons_append, run?_cons rfl, run?_append,
        hitems v List.mem_cons_self, deliver, Option.bind_some,
        ih fun w hw => hitems w (List.mem_cons_of_mem v hw)]
      simp

theorem run?_memberTokens {members : List (String × Value)}
    (hmembers : ∀ member ∈ members, ∀ stack,
      run? ⟨stack, .value⟩ member.2.tokens = deliver member.2 stack)
    (read : List (Option String × Value)) (stack : List Frame) :
    run? ⟨.object read :: stack, .separator⟩ (Value.memberTokens members) =
      some ⟨.object ((members.map Value.keyed).reverse ++ read) :: stack, .separator⟩ := by
  induction members generalizing read with
  | nil => rfl
  | cons member members ih =>
      rw [Value.memberTokens, List.cons_append, List.cons_append, List.cons_append, run?_cons rfl,
        run?_cons rfl, run?_cons rfl, run?_append, hmembers member List.mem_cons_self, deliver,
        Option.bind_some, ih fun m hm => hmembers m (List.mem_cons_of_mem member hm)]
      simp [Value.keyed]

end Reader

namespace Value

theorem ofMembers_keyed (members : List (String × Value)) :
    ofMembers (members.map keyed) = .object members := by
  have hall : (members.map keyed).mapM (fun member => member.1.map (·, member.2)) =
      some members := by
    induction members with
    | nil => rfl
    | cons member rest ih => simp [List.mapM_cons, keyed, ih]
  rw [ofMembers, hall]

/-- The tokens of a value lead to where the value is delivered. -/
theorem WellSpelled.run?_tokens {v : Value} (h : v.WellSpelled) (stack : List Frame) :
    Reader.run? ⟨stack, .value⟩ v.tokens = Reader.deliver v stack := by
  induction h generalizing stack with
  | null => exact Reader.run?_singleton _ .null
  | bool b => exact Reader.run?_singleton _ (.bool b)
  | @number digits _ => exact Reader.run?_singleton _ (.number digits)
  | text s => exact Reader.run?_singleton _ (.text (some s))
  | unreadable => exact Reader.run?_singleton _ (.text none)
  | @array items _ ih =>
      have hopen : Reader.step? ⟨stack, .value⟩ .openArray =
          some ⟨.array [] :: stack, .itemOrEnd⟩ := rfl
      cases items with
      | nil =>
          rw [tokens, Reader.run?_cons hopen, Reader.run?_singleton]
          rfl
      | cons v items =>
          have hfirst := ih v List.mem_cons_self (.array [] :: stack)
          have hitems := Reader.run?_itemTokens
            (fun w hw => ih w (List.mem_cons_of_mem v hw)) [v] stack
          have hclose : Reader.step? ⟨.array (items.reverse ++ [v]) :: stack, .separator⟩
              .closeArray = Reader.deliver (.array (v :: items)) stack := by
            simp [Reader.step?, Reader.afterValue, Reader.closeArray]
          rw [tokens, List.cons_append, List.cons_append, Reader.run?_cons hopen,
            Reader.run?_append, Reader.run?_append, Reader.run?_tokens_itemOrEnd, hfirst,
            Reader.deliver, Option.bind_some, hitems, Option.bind_some, Reader.run?_singleton,
            hclose]
  | @object members _ ih =>
      have hopen : Reader.step? ⟨stack, .value⟩ .openObject =
          some ⟨.object [] :: stack, .keyOrEnd⟩ := rfl
      cases members with
      | nil =>
          rw [tokens, Reader.run?_cons hopen, Reader.run?_singleton]
          rfl
      | cons member members =>
          have hkey : Reader.step? ⟨.object [] :: stack, .keyOrEnd⟩ (.text (some member.1)) =
              some ⟨.member [] (some member.1) :: stack, .colon⟩ := rfl
          have hcolon : Reader.step? ⟨.member [] (some member.1) :: stack, .colon⟩ .colon =
              some ⟨.member [] (some member.1) :: stack, .value⟩ := rfl
          have hfirst := ih member List.mem_cons_self (.member [] (some member.1) :: stack)
          have hmembers := Reader.run?_memberTokens
            (fun m hm => ih m (List.mem_cons_of_mem member hm)) [(some member.1, member.2)] stack
          have hclose : Reader.step? ⟨.object ((members.map keyed).reverse ++
              [(some member.1, member.2)]) :: stack, .separator⟩ .closeObject =
                Reader.deliver (.object (member :: members)) stack := by
            rw [← ofMembers_keyed]
            simp [Reader.step?, Reader.afterValue, Reader.closeObject, keyed]
          simp only [tokens, List.cons_append]
          rw [Reader.run?_cons hopen, Reader.run?_cons hkey, Reader.run?_cons hcolon,
            Reader.run?_append, Reader.run?_append, hfirst, Reader.deliver, Option.bind_some,
            hmembers, Option.bind_some, Reader.run?_singleton, hclose]

/-- What was written of a value reads back as the value. -/
theorem WellSpelled.parse?_write {v : Value} (h : v.WellSpelled) (layout : Layout) :
    parse? (String.ofList (v.write layout 0)) = some v := by
  have hscan := h.scan?_write layout 0 [] endsBefore_nil
  have hread := h.run?_tokens []
  have hempty : Token.scan? [] = some [] := rfl
  rw [List.append_nil, hempty, Option.map_some, List.append_nil] at hscan
  rw [parse?, String.toList_ofList, hscan, Option.bind_some, ofTokens?, hread]
  rfl

theorem WellSpelled.parse?_compact {v : Value} (h : v.WellSpelled) : parse? v.compact = some v :=
  h.parse?_write .compact

theorem WellSpelled.parse?_pretty {v : Value} (h : v.WellSpelled) : parse? v.pretty = some v :=
  h.parse?_write .indented

end Value

end RecordSearch.Json
