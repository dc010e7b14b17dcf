import Mathlib.Data.Finset.Prod
import Mathlib.Data.Finset.Dedup
import Mathlib.Order.Monotone.Basic
import EventRouting.Proofs.Grammar.Derivation

set_option autoImplicit false

/- The calls that are settled on a text grow in number with the depth to which they are followed. There
are only so many names, and so many places in a text, so they have stopped growing when the budget is
reached. -/
namespace EventRouting

namespace Cursor

/-- The whole text that a place is in. -/
def text (cursor : Cursor) : List Char := cursor.behind.reverse ++ cursor.ahead

theorem text_advance (count : Nat) (cursor : Cursor) : (cursor.advance count).text = cursor.text := by
  fun_induction advance count cursor with
  | case1 => rfl
  | case2 => rfl
  | case3 count behind c ahead ih =>
    rw [ih, text, text, List.reverse_cons, List.append_assoc]
    rfl

/-- All places in a text. -/
def places (text : List Char) : Finset Cursor :=
  (Finset.range (text.length + 1)).image fun count => ⟨(text.take count).reverse, text.drop count⟩

theorem mem_places_iff {text : List Char} {cursor : Cursor} :
    cursor ∈ places text ↔ cursor.text = text := by
  rw [places, Finset.mem_image]
  constructor
  · rintro ⟨count, -, rfl⟩
    simp [Cursor.text]
  · rintro rfl
    have inside : cursor.behind.length < cursor.text.length + 1 := by
      rw [Cursor.text, List.length_append, List.length_reverse]
      omega
    exact ⟨cursor.behind.length, Finset.mem_range.2 inside, by simp [Cursor.text]⟩

theorem card_places_le (text : List Char) : (places text).card ≤ text.length + 1 :=
  Finset.card_image_le.trans_eq (Finset.card_range _)

end Cursor

namespace Grammar

variable {Name Value : Type} {text : List Char}

/-- This is the result, and it stays on the text. -/
def Agrees (text : List Char) (counted : Counted Value) (result : Except GrammarError (Outcome Value)) :
    Prop :=
  counted.result = result ∧ ∀ found, result = .ok (some found) → found.2.text = text

theorem Agrees.answer {outcome : Outcome Value} (stays : ∀ found ∈ outcome, found.2.text = text) :
    Agrees text (.answer outcome) (.ok outcome) :=
  ⟨rfl, fun found same => stays found (Except.ok.inj same)⟩

theorem Agrees.stays {counted : Counted Value} {outcome : Outcome Value}
    (agrees : Agrees text counted (.ok outcome)) : ∀ found ∈ outcome, found.2.text = text :=
  fun found inside => agrees.2 found (congrArg Except.ok inside)

theorem Agrees.andThen_error {first : Counted Value} {error : GrammarError}
    (agrees : Agrees text first (.error error)) (next : Outcome Value → Counted Value) :
    Agrees text (first.andThen next) (.error error) :=
  ⟨Counted.result_andThen_error agrees.1 next, by simp⟩

theorem Agrees.andThen {first : Counted Value} {outcome : Outcome Value}
    (agrees : Agrees text first (.ok outcome)) {next : Outcome Value → Counted Value}
    {result : Except GrammarError (Outcome Value)} (more : Agrees text (next outcome) result) :
    Agrees text (first.andThen next) result :=
  ⟨(Counted.result_andThen agrees.1 next).trans more.1, more.2⟩

/-- What is not a value is handed on. -/
theorem Agrees.stop {first : Counted Value} {result : Except GrammarError (Outcome Value)}
    (agrees : Agrees text first result) (stops : ∀ found, result ≠ .ok (some found))
    {next : Outcome Value → Counted Value} (failed : (next none).result = .ok none) :
    Agrees text (first.andThen next) result := by
  cases result with
  | error error => exact agrees.andThen_error next
  | ok outcome =>
    cases outcome with
    | none => exact agrees.andThen ⟨failed, by simp⟩
    | some found => exact absurd rfl (stops found)

theorem stays_scanFrom (read : Cursor → Option (Value × Nat)) {cursor : Cursor}
    (inside : cursor.text = text) : ∀ found ∈ scanFrom read cursor, found.2.text = text := by
  intro found scanned
  obtain ⟨⟨value, count⟩, -, rfl⟩ := Option.map_eq_some_iff.1 scanned
  exact (cursor.text_advance count).trans inside

/-- A changed value stands where the value stood. -/
theorem stays_bind (inside : Cursor → Prop) {outcome : Outcome Value}
    (stays : ∀ found ∈ outcome, inside found.2) (change : Value → Option Value) :
    ∀ found ∈ outcome.bind fun found => (change found.1).map (·, found.2), inside found.2 := by
  intro found changed
  obtain ⟨early, before, same⟩ := Option.bind_eq_some_iff.1 changed
  obtain ⟨value, -, rfl⟩ := Option.map_eq_some_iff.1 same
  exact stays early before

/-- Whatever one way of calling settles on the text, the other settles in the same way. -/
def Extends (text : List Char) (more less : Name → Cursor → Counted Value) : Prop :=
  ∀ name cursor, cursor.text = text → Backed (Agrees text (more name cursor)) (less name cursor)

theorem Backed.agrees_andThen {first first' : Counted Value} {next next' : Outcome Value → Counted Value}
    (backed : Backed (Agrees text first') first)
    (others : ∀ outcome, (∀ found ∈ outcome, found.2.text = text) →
      Backed (Agrees text (next' outcome)) (next outcome)) :
    Backed (Agrees text (first'.andThen next')) (first.andThen next) :=
  backed.andThen (fun _ agrees => agrees.andThen_error next') fun outcome agrees enough =>
    agrees.andThen (others outcome agrees.stays enough)

section Extending

variable {more less : Name → Cursor → Counted Value}

/-- One grammar, with both ways of calling. -/
def Follows (text : List Char) (more less : Name → Cursor → Counted Value)
    (grammar : Grammar Name Value) : Prop :=
  ∀ cursor, cursor.text = text →
    Backed (Agrees text (grammar.evaluateWith more cursor)) (grammar.evaluateWith less cursor)

theorem backed_answer {outcome : Outcome Value} (stays : ∀ found ∈ outcome, found.2.text = text) :
    Backed (Agrees text (.answer outcome)) (.answer outcome) :=
  fun _ => .answer stays

theorem follows_inSequence {parts : List (Grammar Name Value)}
    (follows : ∀ part ∈ parts, Follows text more less part) (collect : List Value → Value)
    (done : List Value) {cursor : Cursor} (inside : cursor.text = text) :
    Backed (Agrees text (evaluateWith.inSequence more collect parts done cursor))
      (evaluateWith.inSequence less collect parts done cursor) := by
  induction parts generalizing done cursor with
  | nil => exact backed_answer (by simpa using inside)
  | cons part rest ih =>
    rw [List.forall_mem_cons] at follows
    rw [evaluateWith.inSequence, evaluateWith.inSequence]
    refine (follows.1 cursor inside).agrees_andThen fun outcome stays => ?_
    cases outcome with
    | none => exact backed_answer stays
    | some found => exact ih follows.2 (found.1 :: done) (stays found rfl)

theorem follows_inOrder {alternatives : List (Grammar Name Value)}
    (follows : ∀ alternative ∈ alternatives, Follows text more less alternative) {cursor : Cursor}
    (inside : cursor.text = text) : Backed (Agrees text (evaluateWith.inOrder more alternatives cursor))
      (evaluateWith.inOrder less alternatives cursor) := by
  induction alternatives with
  | nil => exact backed_answer (by simp)
  | cons alternative rest ih =>
    rw [List.forall_mem_cons] at follows
    rw [evaluateWith.inOrder, evaluateWith.inOrder]
    refine (follows.1 cursor inside).agrees_andThen fun outcome stays => ?_
    cases outcome with
    | none => exact ih follows.2
    | some found => exact backed_answer stays

theorem follows_afterHead {tails : List (Grammar Name Value × (Value → Value → Value))}
    (follows : ∀ tail ∈ tails, Follows text more less tail.1) (left : Value) {cursor : Cursor}
    (inside : cursor.text = text) : Backed (Agrees text (evaluateWith.afterHead more left cursor tails))
      (evaluateWith.afterHead less left cursor tails) := by
  induction tails with
  | nil => exact backed_answer (by simp)
  | cons tail rest ih =>
    rw [List.forall_mem_cons] at follows
    rw [evaluateWith.afterHead, evaluateWith.afterHead]
    refine (follows.1 cursor inside).agrees_andThen fun outcome stays => ?_
    cases outcome with
    | none => exact ih follows.2
    | some found => exact backed_answer (by simpa using stays)

theorem Extends.follows (extended : Extends text more less) (grammar : Grammar Name Value) :
    Follows text more less grammar := by
  induction grammar using parts_induction with
  | scan read => exact fun cursor inside => backed_answer (stays_scanFrom read inside)
  | sequence parts collect ih => exact fun cursor inside => follows_inSequence ih collect [] inside
  | union alternatives ih => exact fun cursor inside => follows_inOrder ih inside
  | transform inner change ih =>
    intro cursor inside
    exact (ih cursor inside).agrees_andThen fun outcome stays =>
      backed_answer (stays_bind (·.text = text) stays change)
  | forward name =>
    intro cursor inside
    exact (extended name cursor inside).agrees_andThen fun outcome stays => backed_answer stays
  | step head tails ihHead ihTails =>
    intro cursor inside
    refine (ihHead cursor inside).agrees_andThen fun outcome stays => ?_
    cases outcome with
    | none => exact backed_answer stays
    | some found => exact follows_afterHead ihTails found.1 (stays found rfl)

end Extending

section Saturation

variable [DecidableEq Name] (definitions : Definitions Name Value)

theorem callAt_unset {name : Name} (absent : definitions.find? name = none) (depth : Nat)
    (cursor : Cursor) : (callAt definitions depth name cursor).result = .error .unset := by
  cases depth with
  | zero => rw [callAt, absent]; rfl
  | succ depth => rw [callAt, absent]

variable {definitions} in
theorem Extends.callAt_succ {depth deeper : Nat}
    (extended : Extends text (callAt definitions deeper) (callAt definitions depth)) :
    Extends text (callAt definitions (deeper + 1)) (callAt definitions (depth + 1)) := by
  intro name cursor inside
  rw [callAt, callAt]
  split
  · next grammar found => exact extended.follows grammar cursor inside
  · exact fun _ => ⟨rfl, by simp⟩

theorem extends_succ (depth : Nat) :
    Extends text (callAt definitions (depth + 1)) (callAt definitions depth) := by
  induction depth with
  | zero =>
    intro name cursor inside enough
    cases found : definitions.find? name with
    | none =>
      rw [callAt_unset definitions found]
      exact ⟨callAt_unset definitions found 1 cursor, by simp⟩
    | some grammar => simp [callAt, found] at enough
  | succ depth ih => exact ih.callAt_succ

open Classical in
/-- The calls on the text that do not run out of calls inside them. -/
noncomputable def settled (text : List Char) (depth : Nat) : Finset (Name × Cursor) :=
  {call ∈ (definitions.entries.map Prod.fst).toFinset ×ˢ Cursor.places text |
    (callAt definitions depth call.1 call.2).result ≠ .error .endless}

variable {definitions} in
theorem mem_settled_iff {depth : Nat} {name : Name} {cursor : Cursor} :
    (name, cursor) ∈ settled definitions text depth ↔ (definitions.find? name).isSome ∧
      cursor.text = text ∧ (callAt definitions depth name cursor).result ≠ .error .endless := by
  classical
  have named : name ∈ definitions.entries.map Prod.fst ↔ (definitions.find? name).isSome := by
    rw [Definitions.find?, List.lookup_isSome_iff, List.mem_map]
    exact exists_congr fun entry => and_congr_right fun _ => by rw [beq_iff_eq, eq_comm]
  rw [settled, Finset.mem_filter, Finset.mem_product, List.mem_toFinset, named, Cursor.mem_places_iff,
    and_assoc]

variable {definitions} in
theorem Extends.settled_subset {depth deeper : Nat}
    (extended : Extends text (callAt definitions deeper) (callAt definitions depth)) :
    settled definitions text depth ⊆ settled definitions text deeper := by
  rintro ⟨name, cursor⟩ inside
  rw [mem_settled_iff] at inside ⊢
  obtain ⟨isSet, inside, enough⟩ := inside
  exact ⟨isSet, inside, (extended name cursor inside enough).1 ▸ enough⟩

theorem settled_mono : Monotone (settled definitions text) :=
  monotone_nat_of_le_succ fun depth => (extends_succ definitions depth).settled_subset

theorem card_settled_le (depth : Nat) :
    (settled definitions text depth).card ≤ budget definitions text := by
  classical
  calc (settled definitions text depth).card
      ≤ ((definitions.entries.map Prod.fst).toFinset ×ˢ Cursor.places text).card :=
        Finset.card_filter_le _ _
    _ = (definitions.entries.map Prod.fst).toFinset.card * (Cursor.places text).card :=
        Finset.card_product _ _
    _ ≤ definitions.entries.length * (text.length + 1) :=
        Nat.mul_le_mul ((List.toFinset_card_le _).trans_eq (List.length_map _))
          (Cursor.card_places_le text)

/-- When no call is settled by one call more inside it, nothing is. -/
theorem extends_of_card_eq {depth : Nat}
    (same : (settled definitions text depth).card = (settled definitions text (depth + 1)).card) :
    Extends text (callAt definitions depth) (callAt definitions (depth + 1)) := by
  intro name cursor inside enough
  cases found : definitions.find? name with
  | none =>
    rw [callAt_unset definitions found]
    exact ⟨callAt_unset definitions found depth cursor, by simp⟩
  | some grammar =>
    have equal : settled definitions text depth = settled definitions text (depth + 1) :=
      Finset.eq_of_subset_of_card_le (settled_mono definitions (Nat.le_succ depth)) same.ge
    have later : (name, cursor) ∈ settled definitions text (depth + 1) :=
      mem_settled_iff.2 ⟨by rw [found]; rfl, inside, enough⟩
    obtain ⟨-, -, early⟩ := mem_settled_iff.1 (equal ▸ later)
    have agrees := extends_succ definitions depth name cursor inside early
    exact ⟨agrees.1.symm, agrees.1 ▸ agrees.2⟩

theorem settled_stays {depth : Nat}
    (same : (settled definitions text depth).card = (settled definitions text (depth + 1)).card) :
    (settled definitions text (depth + 1)).card = (settled definitions text (depth + 2)).card :=
  Nat.le_antisymm (Finset.card_le_card (settled_mono definitions (Nat.le_succ _)))
    (Finset.card_le_card (extends_of_card_eq definitions same).callAt_succ.settled_subset)

/-- A call within the budget gives what its grammar gives within the budget. -/
theorem callAt_budget (name : Name) {cursor : Cursor} (inside : cursor.text = text) :
    (callAt definitions (budget definitions text) name cursor).result =
      (callAt definitions (budget definitions text + 1) name cursor).result := by
  have same : (settled definitions text (budget definitions text + 1)).card =
      (settled definitions text (budget definitions text)).card :=
    Nat.stabilises_of_monotone (fun _ _ deep => Finset.card_le_card (settled_mono definitions deep))
      (card_settled_le definitions) (fun _ => settled_stays definitions) (Nat.le_succ _)
  by_cases enough : (callAt definitions (budget definitions text + 1) name cursor).result =
      .error .endless
  · by_contra differ
    exact differ (extends_succ definitions _ name cursor inside fun early =>
      differ (early.trans enough.symm)).1.symm
  · exact (extends_of_card_eq definitions same.symm name cursor inside enough).1

end Saturation

section Evaluating

variable {call : Name → Cursor → Counted Value}

section Passing

variable {cursor : Cursor} {left : Value} {failed : List (Grammar Name Value)}
  {failedTails : List (Grammar Name Value × (Value → Value → Value))}
  {result : Except GrammarError (Outcome Value)}

theorem inOrder_append (fail : ∀ other ∈ failed, (other.evaluateWith call cursor).result = .ok none)
    (rest : List (Grammar Name Value)) : (evaluateWith.inOrder call (failed ++ rest) cursor).result =
      (evaluateWith.inOrder call rest cursor).result := by
  induction failed with
  | nil => rfl
  | cons other failed ih =>
    rw [List.forall_mem_cons] at fail
    rw [List.cons_append, evaluateWith.inOrder, Counted.result_andThen fail.1]
    exact ih fail.2

theorem agrees_inOrder_none
    (fail : ∀ other ∈ failed, (other.evaluateWith call cursor).result = .ok none) :
    Agrees text (evaluateWith.inOrder call failed cursor) (.ok none) := by
  have passed := inOrder_append fail []
  rw [List.append_nil] at passed
  exact ⟨passed, by simp⟩

theorem agrees_inOrder_first
    (fail : ∀ other ∈ failed, (other.evaluateWith call cursor).result = .ok none)
    {alternative : Grammar Name Value} (rest : List (Grammar Name Value))
    (first : Agrees text (alternative.evaluateWith call cursor) result) (settles : result ≠ .ok none) :
    Agrees text (evaluateWith.inOrder call (failed ++ alternative :: rest) cursor) result := by
  suffices here : Agrees text (evaluateWith.inOrder call (alternative :: rest) cursor) result from
    ⟨(inOrder_append fail _).trans here.1, here.2⟩
  cases result with
  | error error => exact first.andThen_error _
  | ok outcome =>
    cases outcome with
    | none => exact absurd rfl settles
    | some found => exact first.andThen (.answer first.stays)

theorem afterHead_append
    (fail : ∀ other ∈ failedTails, (other.1.evaluateWith call cursor).result = .ok none)
    (rest : List (Grammar Name Value × (Value → Value → Value))) :
    (evaluateWith.afterHead call left cursor (failedTails ++ rest)).result =
      (evaluateWith.afterHead call left cursor rest).result := by
  induction failedTails with
  | nil => rfl
  | cons other failed ih =>
    rw [List.forall_mem_cons] at fail
    rw [List.cons_append, evaluateWith.afterHead, Counted.result_andThen fail.1]
    exact ih fail.2

theorem agrees_afterHead_none
    (fail : ∀ other ∈ failedTails, (other.1.evaluateWith call cursor).result = .ok none) :
    Agrees text (evaluateWith.afterHead call left cursor failedTails) (.ok none) := by
  have passed : (evaluateWith.afterHead call left cursor (failedTails ++ [])).result = .ok none :=
    afterHead_append fail []
  rw [List.append_nil] at passed
  exact ⟨passed, by simp⟩

theorem agrees_afterHead_first
    (fail : ∀ other ∈ failedTails, (other.1.evaluateWith call cursor).result = .ok none)
    {tail : Grammar Name Value} (combine : Value → Value → Value)
    (rest : List (Grammar Name Value × (Value → Value → Value))) {right : Value} {last : Cursor}
    (reads : Agrees text (tail.evaluateWith call cursor) (.ok (some (right, last)))) :
    Agrees text (evaluateWith.afterHead call left cursor (failedTails ++ (tail, combine) :: rest))
      (.ok (some (combine left right, last))) := by
  have here : Agrees text (evaluateWith.afterHead call left cursor ((tail, combine) :: rest))
      (.ok (some (combine left right, last))) := reads.andThen (.answer (by simpa using reads.stays))
  exact ⟨(afterHead_append fail _).trans here.1, here.2⟩

theorem agrees_afterHead_error
    (fail : ∀ other ∈ failedTails, (other.1.evaluateWith call cursor).result = .ok none)
    {tail : Grammar Name Value} (combine : Value → Value → Value)
    (rest : List (Grammar Name Value × (Value → Value → Value))) {error : GrammarError}
    (broke : Agrees text (tail.evaluateWith call cursor) (.error error)) :
    Agrees text (evaluateWith.afterHead call left cursor (failedTails ++ (tail, combine) :: rest))
      (.error error) := by
  have here : Agrees text (evaluateWith.afterHead call left cursor ((tail, combine) :: rest))
      (.error error) := broke.andThen_error _
  exact ⟨(afterHead_append fail _).trans here.1, here.2⟩

end Passing

variable [DecidableEq Name] {definitions : Definitions Name Value}

/-- Calls that give what their grammars give. -/
structure Closed (definitions : Definitions Name Value) (text : List Char)
    (call : Name → Cursor → Counted Value) : Prop where
  set : ∀ name grammar cursor, definitions.find? name = some grammar → cursor.text = text →
    (call name cursor).result = (grammar.evaluateWith call cursor).result
  unset : ∀ name cursor, definitions.find? name = none → (call name cursor).result = .error .unset

theorem closed_callAt (definitions : Definitions Name Value) (text : List Char) :
    Closed definitions text (callAt definitions (budget definitions text)) where
  set name grammar cursor found inside := by
    rw [callAt_budget definitions name inside, callAt, found]
  unset name cursor absent := callAt_unset definitions absent _ cursor

theorem Derives.agrees (closed : Closed definitions text call) {grammar : Grammar Name Value}
    {cursor : Cursor} {result : Except GrammarError (Outcome Value)}
    (derived : Derives definitions grammar cursor result) (inside : cursor.text = text) :
    Agrees text (grammar.evaluateWith call cursor) result := by
  induction derived with
  | scan => exact .answer (stays_scanFrom _ inside)
  | sequenceDone => exact .answer (by simpa using inside)
  | sequenceStop first stops ih => exact (ih inside).stop stops rfl
  | @sequenceNext part rest collect cursor after value result first others ihFirst ihOthers =>
    have started := ihFirst inside
    refine started.andThen ?_
    change Agrees text (evaluateWith.inSequence call collect rest [value] after) result
    rw [inSequence_done]
    exact ihOthers (started.stays _ rfl)
  | unionNone fail ih => exact agrees_inOrder_none fun other member => (ih other member inside).1
  | unionFirst fail first settles ihFail ihFirst =>
    exact agrees_inOrder_first (fun other member => (ihFail other member inside).1) _ (ihFirst inside)
      settles
  | transform ended ih =>
    exact (ih inside).andThen (.answer (stays_bind (·.text = text) (ih inside).stays _))
  | transformError broke ih => exact (ih inside).andThen_error _
  | @forward name grammar cursor result found ended ih =>
    have ended := ih inside
    have called : Agrees text (call name cursor) result :=
      ⟨(closed.set name grammar cursor found inside).trans ended.1, ended.2⟩
    cases result with
    | error error => exact called.andThen_error _
    | ok outcome => exact called.andThen (.answer called.stays)
  | @unset name cursor absent =>
    have called : Agrees text (call name cursor) (.error .unset) :=
      ⟨closed.unset name cursor absent, by simp⟩
    exact called.andThen_error _
  | stepStop first stops ih => exact (ih inside).stop stops rfl
  | stepNone first fail ihFirst ihFail =>
    have place := (ihFirst inside).stays _ rfl
    exact (ihFirst inside).andThen (agrees_afterHead_none fun other member => (ihFail other member place).1)
  | stepFirst first fail reads ihFirst ihFail ihReads =>
    have place := (ihFirst inside).stays _ rfl
    exact (ihFirst inside).andThen
      (agrees_afterHead_first (fun other member => (ihFail other member place).1) _ _ (ihReads place))
  | stepError first fail broke ihFirst ihFail ihBroke =>
    have place := (ihFirst inside).stays _ rfl
    exact (ihFirst inside).andThen
      (agrees_afterHead_error (fun other member => (ihFail other member place).1) _ _ (ihBroke place))

/-- The budget for the text that a place is in is enough there. -/
theorem Derives.evaluate_eq {grammar : Grammar Name Value} {cursor : Cursor}
    {result : Except GrammarError (Outcome Value)}
    (derived : Derives definitions grammar cursor result) :
    (evaluate definitions (budget definitions cursor.text) grammar cursor).result = result :=
  (derived.agrees (closed_callAt definitions cursor.text) rfl).1

theorem Derives.parse_eq {grammar : Grammar Name Value} {text : List Char} {outcome : Outcome Value}
    (derived : Derives definitions grammar (.start text) (.ok outcome)) :
    parse definitions grammar text = .ok (outcome.map fun found => (found.1, found.2.ahead)) := by
  have evaluated : (evaluate definitions (budget definitions text) grammar (.start text)).result =
      .ok outcome :=
    derived.evaluate_eq
  rw [Grammar.parse_eq, evaluated]
  rfl

/-- A grammar comes to one result only. -/
theorem Derives.unique {grammar : Grammar Name Value} {cursor : Cursor}
    {left right : Except GrammarError (Outcome Value)}
    (first : Derives definitions grammar cursor left) (second : Derives definitions grammar cursor right) :
    left = right :=
  first.evaluate_eq.symm.trans second.evaluate_eq

theorem evaluate_eq_iff_derives (definitions : Definitions Name Value) (grammar : Grammar Name Value)
    (cursor : Cursor) (result : Except GrammarError (Outcome Value)) :
    (evaluate definitions (budget definitions cursor.text) grammar cursor).result = result ↔
      Derives definitions grammar cursor result ∨
        result = .error .endless ∧ ∀ other, ¬ Derives definitions grammar cursor other := by
  constructor
  · intro ended
    by_cases enough : result = .error .endless
    · refine Or.inr ⟨enough, fun other derived => ?_⟩
      obtain rfl : other = .error .endless := derived.evaluate_eq.symm.trans (ended.trans enough)
      exact absurd derived.error_eq_unset (by decide)
    · exact Or.inl (derives_of_evaluate ended enough)
  · rintro (derived | ⟨rfl, none⟩)
    · exact derived.evaluate_eq
    · by_contra enough
      exact none _ (derives_of_evaluate rfl enough)

end Evaluating

end Grammar

end EventRouting
