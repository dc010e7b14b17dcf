import EventRouting.Proofs.RuleText.Pieces

set_option autoImplicit false

namespace EventRouting.RuleText

open Text Grammar

variable {cursor after : Cursor} {value : Phrase}

/-- Calls read sentences wherever less is left to do than the bound. -/
def ReadsBelow (bound : Nat) : Prop :=
  ∀ level cursor value after, 4 * cursor.ahead.length + rank level < bound →
    RuleYields (.forward level) cursor value after → ReadsSentence level cursor value after

variable {bound : Nat}

theorem yields_parentheses (below : ReadsBelow bound) (room : 4 * cursor.ahead.length < bound)
    (yields : RuleYields parentheses cursor value after) :
    ∃ text expression, cursor.Spans ('(' :: text ++ [')']) after ∧
      Sentence .expression expression text (')' :: after.ahead) ∧ value = .rule expression := by
  obtain ⟨_, opened, opening, others⟩ := yields_sequence_cons yields
  obtain ⟨_, closing, inner, others⟩ := yields_sequence_cons others
  obtain ⟨_, _, closed, ended⟩ := yields_sequence_cons others
  obtain ⟨same, rfl⟩ := yields_sequence_nil ended
  have spansOpen := (yields_mark opening).1
  have spansClose := (yields_mark closed).1
  rw [open_letters] at spansOpen
  rw [close_letters] at spansClose
  have shorter : 4 * opened.ahead.length + rank .expression < bound := by
    have length := spansOpen.length
    simp only [List.length_singleton] at length
    simp only [rank]
    omega
  obtain ⟨text, expression, spans, sentence, rfl⟩ := below _ _ _ _ shorter inner
  rw [spansClose.ahead] at sentence
  have whole := (spansOpen.trans spans).trans spansClose
  exact ⟨text, expression, by simpa using whole, sentence, same⟩

theorem yields_negation (below : ReadsBelow bound) (room : 4 * cursor.ahead.length < bound)
    (yields : RuleYields negation cursor value after) : ReadsSentence .unary cursor value after := by
  obtain ⟨early, inner, rfl⟩ := yields_map yields
  obtain ⟨_, place, worded, operand⟩ := yields_andThen inner
  obtain ⟨word, spansWord, spells⟩ := yields_keyword no_word worded
  have shorter : 4 * place.ahead.length + 8 ≤ 4 * cursor.ahead.length := by
    have length := spansWord.length
    rw [spells.length, no_letters] at length
    simp only [List.length_cons, List.length_nil] at length
    omega
  rcases yields_union_cons operand with grouped | ⟨-, spaced⟩
  · obtain ⟨_, middle, gapped, grouped⟩ := yields_andThen grouped
    obtain ⟨gap, spansGap, blank⟩ := yields_someBlanks gapped
    have length := spansGap.length_le
    obtain ⟨text, expression, spans, sentence, rfl⟩ := yields_parentheses below (by omega) grouped
    exact ⟨_, _, spansWord.trans (spansGap.trans spans), .noParentheses spells blank sentence, rfl⟩
  · obtain ⟨_, middle, gapped, called⟩ := yields_andThen (yields_union_single spaced)
    obtain ⟨gap, spansGap, blank, apart⟩ := yields_blanks gapped
    have length := spansGap.length_le
    have less : 4 * middle.ahead.length + rank .unary < bound := by
      simp only [rank]
      omega
    obtain ⟨text, expression, spans, sentence, rfl⟩ := below _ _ _ _ less called
    exact ⟨_, _, spansWord.trans (spansGap.trans spans), .no spells blank apart sentence, rfl⟩

/-- A chain of operands is a sentence of its level. -/
theorem chain_readsSentence {operand same : Level} {word : String} {kind : Junction}
    (known : ∀ letter ∈ word.toList, IsWordLetter letter) (some : 2 ≤ word.toList.length)
    (loosen : ∀ expression text rest, Sentence operand expression text rest →
      Sentence same expression text rest)
    (join : ∀ left right first front written back second rest,
      Sentence operand left first (front ++ written ++ back ++ second ++ rest) → GapAfter first front →
        Spells word written → GapBefore back second → Sentence same right second rest →
          Sentence same (.junction kind left [right]) (first ++ (front ++ written ++ back ++ second)) rest)
    (below : ReadsBelow bound) (room : 4 * cursor.ahead.length + rank operand < bound)
    (yields : RuleYields (chain operand same word kind) cursor value after) :
    ReadsSentence same cursor value after := by
  have wordSome : word.toList ≠ [] := List.ne_nil_of_length_pos (by omega)
  obtain ⟨left, middle, first, rest⟩ := yields_chain known wordSome yields
  obtain ⟨firstText, leftRule, spansFirst, sentence, rfl⟩ := below _ _ _ _ room first
  rcases rest with ⟨rfl, rfl⟩ | ⟨front, written, back, start, right, joins, second, rfl⟩
  · exact ⟨firstText, leftRule, spansFirst, loosen _ _ _ sentence, rfl⟩
  · have less : 4 * start.ahead.length + rank same < bound := by
      have shorter := joins.shorter
      have length := spansFirst.length_le
      have small : rank same ≤ 4 := by cases same <;> decide
      omega
    obtain ⟨secondText, rightRule, spansSecond, sentenceSecond, rfl⟩ := below _ _ _ _ less second
    have spans := joins.spans.trans spansSecond
    have closed : front ≠ [] ∨ firstText.getLast? = .some ')' := by
      rw [← spansFirst.head?_behind sentence.not_nil]
      exact joins.apartFront
    have opened : back ≠ [] ∨ secondText.head? = .some '(' := by
      have apart := joins.apartBack
      rwa [spansSecond.ahead, List.head?_append_of_ne_nil _ sentenceSecond.not_nil] at apart
    rw [spans.ahead] at sentence
    exact ⟨_, _, spansFirst.trans spans,
      join _ _ _ _ _ _ _ _ sentence ⟨joins.blankFront, closed⟩ joins.spelled
      ⟨joins.blankBack, opened⟩ sentenceSecond, rfl⟩

theorem unary_readsSentence (below : ReadsBelow bound) (room : 4 * cursor.ahead.length < bound)
    (yields : RuleYields (.union [negation, parentheses, basic]) cursor value after) :
    ReadsSentence .unary cursor value after := by
  rcases yields_union_cons yields with denied | ⟨-, others⟩
  · exact yields_negation below room denied
  rcases yields_union_cons others with grouped | ⟨-, others⟩
  · obtain ⟨text, expression, spans, sentence, same⟩ := yields_parentheses below room grouped
    exact ⟨_, _, spans, .parentheses sentence, same⟩
  · exact yields_basic (yields_union_single others)

theorem expression_readsSentence (below : ReadsBelow bound)
    (room : 4 * cursor.ahead.length + rank .disjunction < bound)
    (yields : RuleYields ((someBlanks.andThen (.forward .disjunction)).andSkip someBlanks) cursor
      value after) :
    ReadsSentence .expression cursor value after := by
  obtain ⟨_, last, inner, trailing⟩ := yields_andSkip yields
  obtain ⟨_, start, leading, called⟩ := yields_andThen inner
  obtain ⟨front, spansFront, blankFront⟩ := yields_someBlanks leading
  obtain ⟨back, spansBack, blankBack⟩ := yields_someBlanks trailing
  have length := spansFront.length_le
  obtain ⟨text, expression, spans, sentence, same⟩ := below _ _ _ _ (by omega) called
  rw [spansBack.ahead] at sentence
  exact ⟨_, _, spansFront.trans (spans.trans spansBack),
    .expression blankFront sentence blankBack, same⟩

theorem readsBelow (bound : Nat) : ReadsBelow bound := by
  induction bound with
  | zero =>
    intro level cursor value after less
    contradiction
  | succ bound below =>
    intro level cursor value after less yields
    obtain ⟨grammar, found, inner⟩ := yields_forward yields
    have room : 4 * cursor.ahead.length + rank level ≤ bound := Nat.le_of_lt_succ less
    cases level with
    | unary =>
      obtain rfl := Option.some.inj found
      exact unary_readsSentence below room inner
    | conjunction =>
      obtain rfl := Option.some.inj found
      exact chain_readsSentence (by simp [and_letters, IsWordLetter]) (by simp [and_letters])
        (fun _ _ _ => .unary) (fun _ _ _ _ _ _ _ _ => .and) below room inner
    | disjunction =>
      obtain rfl := Option.some.inj found
      exact chain_readsSentence (by simp [or_letters, IsWordLetter]) (by simp [or_letters])
        (fun _ _ _ => .conjunction) (fun _ _ _ _ _ _ _ _ => .or) below room inner
    | expression =>
      obtain rfl := Option.some.inj found
      exact expression_readsSentence below room inner

/-- What is read at a level is a sentence of the level. -/
theorem readsSentence_of_yields {level : Level} (yields : RuleYields (.forward level) cursor value after) :
    ReadsSentence level cursor value after :=
  readsBelow _ level cursor value after (Nat.lt_succ_self _) yields

end EventRouting.RuleText
