import EventRouting.Proofs.Grammar.Inversion
import EventRouting.Proofs.RuleText.Layouts
import EventRouting.Proofs.RuleText.Sentences

set_option autoImplicit false

namespace EventRouting.RuleText

open Text Grammar

abbrev RuleYields (grammar : RuleGrammar) (cursor : Cursor) (value : Phrase) (after : Cursor) : Prop :=
  Yields definitions grammar cursor value after

variable {cursor after : Cursor} {value : Phrase}

theorem spans_of_ahead {text rest : List Char} (shape : cursor.ahead = text ++ rest) :
    cursor.Spans text (cursor.advance (cursor.ahead.length - rest.length)) ∧
      (cursor.advance (cursor.ahead.length - rest.length)).ahead = rest := by
  obtain ⟨behind, ahead⟩ := cursor
  obtain rfl : ahead = text ++ rest := shape
  rw [List.length_append, Nat.add_sub_cancel, Cursor.advance_append]
  exact ⟨⟨rfl, rfl⟩, rfl⟩

/-- What a scanner takes off the text is what the grammar reads. -/
theorem yields_token {Value : Type} {read : List Char → Option (Value × List Char)}
    {phrase : Value → Phrase} (Spelled : List Char → Value → List Char → Prop)
    (known : ∀ text found rest, read text = some (found, rest) →
      ∃ token, Spelled token found rest ∧ text = token ++ rest)
    (yields : RuleYields (token read phrase) cursor value after) :
    ∃ token found, cursor.Spans token after ∧ Spelled token found after.ahead ∧
      value = phrase found := by
  obtain ⟨count, scanned, rfl⟩ := yields_scan yields
  rw [Option.map_eq_some_iff] at scanned
  obtain ⟨⟨found, rest⟩, scanned, same⟩ := scanned
  obtain ⟨rfl, rfl⟩ := Prod.mk.inj same
  obtain ⟨text, spelled, shape⟩ := known _ _ _ scanned
  obtain ⟨spans, ends⟩ := spans_of_ahead shape
  refine ⟨text, found, spans, ?_, rfl⟩
  rw [ends]
  exact spelled

theorem fails_token {Value : Type} {read : List Char → Option (Value × List Char)}
    {phrase : Value → Phrase}
    (fails : Fails definitions (token read phrase) cursor) : read cursor.ahead = none :=
  Option.map_eq_none_iff.1 (fails_scan fails)

theorem yields_mark {sign : String} {phrase : Phrase}
    (yields : RuleYields (mark sign phrase) cursor value after) :
    cursor.Spans sign.toList after ∧ value = phrase := by
  obtain ⟨count, scanned, rfl⟩ := yields_scan yields
  rw [Option.ite_none_right_eq_some, List.isPrefixOf_iff_prefix] at scanned
  obtain ⟨⟨rest, shape⟩, same⟩ := scanned
  obtain ⟨rfl, rfl⟩ := Prod.mk.inj (Option.some.inj same)
  have spans := (spans_of_ahead shape.symm).1
  rw [← shape, List.length_append, Nat.add_sub_cancel] at spans
  exact ⟨spans, rfl⟩

theorem yields_keyword {word : String} (known : ∀ letter ∈ word.toList, IsWordLetter letter)
    (yields : RuleYields (keyword word) cursor value after) :
    ∃ written, cursor.Spans written after ∧ Spells word written := by
  obtain ⟨count, scanned, rfl⟩ := yields_scan yields
  rw [Option.map_eq_some_iff] at scanned
  obtain ⟨written, spelled, same⟩ := scanned
  obtain ⟨rfl, rfl⟩ := Prod.mk.inj same
  obtain ⟨spells, rest, shape⟩ := eq_append_of_spelled? known spelled
  have spans := (spans_of_ahead shape).1
  rw [shape, List.length_append, Nat.add_sub_cancel] at spans
  exact ⟨written, spans, spells⟩

theorem spans_blanks (cursor : Cursor) :
    cursor.Spans (cursor.ahead.takeWhile isBlank)
        (cursor.advance (cursor.ahead.takeWhile isBlank).length) ∧
      Blanks (cursor.ahead.takeWhile isBlank) ∧
      cursor.ahead.drop (cursor.ahead.takeWhile isBlank).length =
        (cursor.advance (cursor.ahead.takeWhile isBlank).length).ahead := by
  have shape : cursor.ahead = cursor.ahead.takeWhile isBlank ++ cursor.ahead.dropWhile isBlank :=
    List.takeWhile_append_dropWhile.symm
  obtain ⟨spans, ends⟩ := spans_of_ahead shape
  have length := congrArg List.length shape
  rw [List.length_append] at length
  rw [length, Nat.add_sub_cancel] at spans ends
  refine ⟨spans, fun c inside => List.mem_takeWhile_imp inside, ?_⟩
  calc cursor.ahead.drop (cursor.ahead.takeWhile isBlank).length
      = (cursor.ahead.takeWhile isBlank ++ cursor.ahead.dropWhile isBlank).drop
          (cursor.ahead.takeWhile isBlank).length := by rw [← shape]
    _ = cursor.ahead.dropWhile isBlank := List.drop_left
    _ = _ := ends.symm

theorem yields_blanks (yields : RuleYields blanks cursor value after) :
    ∃ text, cursor.Spans text after ∧ Blanks text ∧ text ≠ [] := by
  obtain ⟨count, scanned, rfl⟩ := yields_scan yields
  have spanned := spans_blanks cursor
  split at scanned
  · contradiction
  · rename_i some
    obtain ⟨-, rfl⟩ := Prod.mk.inj (Option.some.inj scanned)
    exact ⟨_, spanned.1, spanned.2.1, some⟩

theorem yields_someBlanks (yields : RuleYields someBlanks cursor value after) :
    ∃ text, cursor.Spans text after ∧ Blanks text := by
  rcases yields_maybe yields with ⟨early, inner, -⟩ | ⟨-, rfl⟩
  · obtain ⟨text, spans, blank, -⟩ := yields_blanks inner
    exact ⟨text, spans, blank⟩
  · exact ⟨[], .refl _, blanks_nil⟩

theorem yields_gap (yields : RuleYields gap cursor value after) :
    ∃ text, cursor.Spans text after ∧ Blanks text ∧
      (text ≠ [] ∨ cursor.behind.head? = some ')' ∨ after.ahead.head? = some '(') := by
  obtain ⟨count, scanned, rfl⟩ := yields_scan yields
  obtain ⟨spans, blank, ends⟩ := spans_blanks cursor
  dsimp only at scanned
  rw [Option.ite_none_right_eq_some] at scanned
  obtain ⟨apart, same⟩ := scanned
  obtain ⟨-, rfl⟩ := Prod.mk.inj (Option.some.inj same)
  rw [ends] at apart
  refine ⟨_, spans, blank, ?_⟩
  simpa [or_assoc] using apart

theorem yields_network (yields : RuleYields network cursor value after) :
    ∃ text atom, cursor.Spans text after ∧ NetworkToken text atom after.ahead ∧
      value = .operand (some atom) := by
  rcases yields_union_cons yields with ip | ⟨-, others⟩
  · have known : ∀ text found rest, scanIp text = some (found, rest) →
        ∃ token, NetworkToken token (.ip found) rest ∧ text = token ++ rest := by
      intro text found rest scanned
      obtain ⟨token, spelled, boundary, shape⟩ := ipText_of_scanIp scanned
      exact ⟨token, .ip spelled boundary, shape⟩
    obtain ⟨text, range, spans, spelled, same⟩ :=
      yields_token (fun text range rest => NetworkToken text (.ip range) rest) known ip
    exact ⟨text, .ip range, spans, spelled, same⟩
  · have known : ∀ text found rest, scanDomain text = some (found, rest) →
        ∃ token, NetworkToken token (.domainName found) rest ∧ text = token ++ rest := by
      intro text found rest scanned
      obtain ⟨token, spelled, shape⟩ := domainText_of_scanDomain scanned
      exact ⟨token, .domainName spelled, shape⟩
    obtain ⟨text, pattern, spans, spelled, same⟩ :=
      yields_token (fun text pattern rest => NetworkToken text (.domainName pattern) rest) known
        (yields_union_single others)
    exact ⟨text, .domainName pattern, spans, spelled, same⟩

theorem fails_network (fails : Fails definitions network cursor) :
    scanIp cursor.ahead = none ∧ scanDomain cursor.ahead = none := by
  obtain ⟨ip, others⟩ := fails_union_cons fails
  obtain ⟨domain, -⟩ := fails_union_cons others
  exact ⟨fails_token ip, fails_token domain⟩

theorem yields_string {phrase : List Char → Phrase}
    (yields : RuleYields (token scanString phrase) cursor value after) :
    ∃ text found, cursor.Spans text after ∧ StringToken text found ∧ value = phrase found :=
  yields_token (fun text found _ => StringToken text found)
    (fun _ _ _ scanned => stringToken_of_scanString scanned) yields

theorem yields_regexp {phrase : Regexp → Phrase}
    (yields : RuleYields (token scanRegexp phrase) cursor value after) :
    ∃ text regexp, cursor.Spans text after ∧ RegexpText text regexp ∧ value = phrase regexp :=
  yields_token (fun text regexp _ => RegexpText text regexp)
    (fun _ _ _ scanned => regexpText_of_scanRegexp scanned) yields

theorem yields_value (yields : RuleYields RuleText.value cursor value after) :
    ∃ text atom, cursor.Spans text after ∧ ValueToken text atom ∧ value = .operand atom := by
  rcases yields_union_cons yields with star | ⟨-, others⟩
  · obtain ⟨spans, same⟩ := yields_mark star
    rw [star_letters] at spans
    exact ⟨_, none, spans, .any, same⟩
  · rcases yields_union_cons others with regexp | ⟨-, others⟩
    · obtain ⟨text, regexp, spans, spelled, same⟩ := yields_regexp regexp
      exact ⟨text, _, spans, .regexp spelled, same⟩
    · obtain ⟨text, found, spans, spelled, same⟩ := yields_string (yields_union_single others)
      exact ⟨text, _, spans, .string spelled, same⟩

theorem yields_key
    (yields : RuleYields
      (.union [mark "*" (.key none), token scanString fun name => .key (some (String.ofList name))])
      cursor value after) :
    ∃ text key, cursor.Spans text after ∧ KeyToken text key ∧ value = .key key := by
  rcases yields_union_cons yields with star | ⟨-, others⟩
  · obtain ⟨spans, same⟩ := yields_mark star
    rw [star_letters] at spans
    exact ⟨_, none, spans, .any, same⟩
  · obtain ⟨text, found, spans, spelled, same⟩ := yields_string (yields_union_single others)
    exact ⟨text, _, spans, .string spelled, same⟩

/-- A test that is read after its key, of which the text is given. -/
def TestAfter (sense : Sense) (atom : Option Atom) (text rest : List Char) : Prop :=
  ∀ name key, KeyToken name key → Primary (.test sense key atom) (name ++ text) rest

theorem yields_matchTail (yields : RuleYields matchTail cursor value after) :
    ∃ text atom, cursor.Spans text after ∧ TestAfter .matching atom text after.ahead ∧
      value = .operand atom := by
  rcases yields_union_cons yields with equal | ⟨-, others⟩
  · obtain ⟨_, _, front, valued⟩ := yields_andThen equal
    obtain ⟨_, _, front, spaced⟩ := yields_andThen front
    obtain ⟨_, _, front, again⟩ := yields_andThen front
    obtain ⟨_, _, spacedFirst, sign⟩ := yields_andThen front
    obtain ⟨before, spansBefore, blankBefore⟩ := yields_someBlanks spacedFirst
    obtain ⟨spansSign, -⟩ := yields_mark sign
    rw [equal_letters] at spansSign
    obtain ⟨back, spansBack, blankBack⟩ := yields_someBlanks spaced
    obtain ⟨text, atom, spansValue, spelled, same⟩ := yields_value valued
    rcases yields_maybe again with ⟨_, second, -⟩ | ⟨-, rfl⟩
    · obtain ⟨spansSecond, -⟩ := yields_mark second
      rw [equal_letters] at spansSecond
      have spans := ((spansBefore.trans (spansSign.trans spansSecond)).trans spansBack).trans spansValue
      exact ⟨_, atom, spans, fun _ _ keyed => .equal keyed blankBefore (Or.inr rfl) blankBack spelled,
        same⟩
    · have spans := ((spansBefore.trans spansSign).trans spansBack).trans spansValue
      exact ⟨_, atom, spans, fun _ _ keyed => .equal keyed blankBefore (Or.inl rfl) blankBack spelled,
        same⟩
  · obtain ⟨_, _, front, networked⟩ := yields_andThen (yields_union_single others)
    obtain ⟨_, _, front, spaced⟩ := yields_andThen front
    obtain ⟨_, _, spacedFirst, worded⟩ := yields_andThen front
    obtain ⟨before, spansBefore, blankBefore, apart⟩ := yields_blanks spacedFirst
    obtain ⟨word, spansWord, spells⟩ := yields_keyword (by simp [in_letters, IsWordLetter]) worded
    obtain ⟨back, spansBack, blankBack, separate⟩ := yields_blanks spaced
    obtain ⟨text, atom, spansNetwork, spelled, same⟩ := yields_network networked
    have spans := ((spansBefore.trans spansWord).trans spansBack).trans spansNetwork
    exact ⟨_, some atom, spans,
      fun _ _ keyed => .inside keyed blankBefore apart spells blankBack separate spelled, same⟩

theorem yields_nonMatchTail (yields : RuleYields nonMatchTail cursor value after) :
    ∃ text atom, cursor.Spans text after ∧ TestAfter .nonMatching atom text after.ahead ∧
      value = .operand atom := by
  rcases yields_union_cons yields with unequal | ⟨-, others⟩
  · obtain ⟨_, _, front, valued⟩ := yields_andThen unequal
    obtain ⟨_, _, front, spaced⟩ := yields_andThen front
    obtain ⟨_, _, spacedFirst, sign⟩ := yields_andThen front
    obtain ⟨before, spansBefore, blankBefore⟩ := yields_someBlanks spacedFirst
    obtain ⟨spansSign, -⟩ := yields_mark sign
    rw [unequal_letters] at spansSign
    obtain ⟨back, spansBack, blankBack⟩ := yields_someBlanks spaced
    obtain ⟨text, atom, spansValue, spelled, same⟩ := yields_value valued
    have spans := ((spansBefore.trans spansSign).trans spansBack).trans spansValue
    exact ⟨_, atom, spans, fun _ _ keyed => .unequal keyed blankBefore blankBack spelled, same⟩
  · obtain ⟨_, _, front, networked⟩ := yields_andThen (yields_union_single others)
    obtain ⟨_, _, front, spaced⟩ := yields_andThen front
    obtain ⟨_, _, front, worded⟩ := yields_andThen front
    obtain ⟨_, _, front, spacedMiddle⟩ := yields_andThen front
    obtain ⟨_, _, spacedFirst, denied⟩ := yields_andThen front
    obtain ⟨before, spansBefore, blankBefore, apart⟩ := yields_blanks spacedFirst
    obtain ⟨denial, spansDenial, denies⟩ := yields_keyword (by simp [not_letters, IsWordLetter]) denied
    obtain ⟨middle, spansMiddle, blankMiddle, distinct⟩ := yields_blanks spacedMiddle
    obtain ⟨word, spansWord, spells⟩ := yields_keyword (by simp [in_letters, IsWordLetter]) worded
    obtain ⟨back, spansBack, blankBack, separate⟩ := yields_blanks spaced
    obtain ⟨text, atom, spansNetwork, spelled, same⟩ := yields_network networked
    have spans :=
      ((((spansBefore.trans spansDenial).trans spansMiddle).trans spansWord).trans spansBack).trans
      spansNetwork
    exact ⟨_, some atom, spans,
      fun _ _ keyed => .outside keyed blankBefore apart denies blankMiddle distinct spells blankBack
        separate spelled,
      same⟩

/-- Between two places stands a sentence of the level. -/
def ReadsSentence (level : Level) (cursor : Cursor) (value : Phrase) (after : Cursor) : Prop :=
  ∃ text expression, cursor.Spans text after ∧ Sentence level expression text after.ahead ∧
    value = .rule expression

theorem yields_basic (yields : RuleYields basic cursor value after) :
    ReadsSentence .unary cursor value after := by
  rcases yields_union_cons yields with regexp | ⟨-, others⟩
  · obtain ⟨text, regexp, spans, spelled, same⟩ := yields_regexp regexp
    exact ⟨text, _, spans, .primary (.regexp spelled), same⟩
  rcases yields_union_cons others with tested | ⟨-, others⟩
  · obtain ⟨left, middle, keyed, tail, inside, right, reads, same⟩ := yields_step tested
    obtain ⟨name, key, spansKey, keyToken, rfl⟩ := yields_key keyed
    rw [List.mem_cons, List.mem_singleton] at inside
    rcases inside with rfl | rfl
    · obtain ⟨text, atom, spans, tests, rfl⟩ := yields_matchTail reads
      exact ⟨_, _, spansKey.trans spans, .primary (tests name key keyToken), same⟩
    · obtain ⟨text, atom, spans, tests, rfl⟩ := yields_nonMatchTail reads
      exact ⟨_, _, spansKey.trans spans, .primary (tests name key keyToken), same⟩
  rcases yields_union_cons others with networked | ⟨noNetwork, others⟩
  · obtain ⟨early, inner, rfl⟩ := yields_map networked
    obtain ⟨text, atom, spans, spelled, rfl⟩ := yields_network inner
    exact ⟨text, _, spans, .primary (.network spelled), rfl⟩
  rcases yields_union_cons others with stringed | ⟨-, others⟩
  · obtain ⟨early, inner, rfl⟩ := yields_map stringed
    obtain ⟨text, found, spans, spelled, rfl⟩ := yields_string inner
    obtain ⟨notIp, notDomain⟩ := fails_network (fails_map noNetwork)
    rw [spans.ahead] at notIp notDomain
    exact ⟨text, _, spans, .primary (.string spelled notIp notDomain), rfl⟩
  · obtain ⟨spans, same⟩ := yields_mark (yields_union_single others)
    rw [star_letters] at spans
    exact ⟨_, _, spans, .primary .anything, same⟩

theorem no_word : ∀ letter ∈ "no".toList, IsWordLetter letter := by simp [no_letters, IsWordLetter]

theorem Spells.length {word : String} {written : List Char} (spells : Spells word written) :
    written.length = word.toList.length := by
  rw [← List.length_map Char.toLower, spells]

/-- A word between two operands, with white space or a parenthesis on each side. -/
structure Joins (word : String) (cursor : Cursor) (front written back : List Char)
    (after : Cursor) : Prop where
  spans : cursor.Spans (front ++ written ++ back) after
  blankFront : Blanks front
  apartFront : front ≠ [] ∨ cursor.behind.head? = some ')'
  spelled : Spells word written
  blankBack : Blanks back
  apartBack : back ≠ [] ∨ after.ahead.head? = some '('

theorem Spells.ne_parenthesis {word : String} {written : List Char} (spells : Spells word written)
    (known : ∀ letter ∈ word.toList, IsWordLetter letter) {c : Char} (inside : c ∈ written) :
    c ≠ '(' ∧ c ≠ ')' := by
  have letter : IsWordLetter c.toLower := by
    apply known
    rw [← spells]
    exact List.mem_map_of_mem inside
  constructor
  · rintro rfl
    exact absurd letter (by decide)
  · rintro rfl
    exact absurd letter (by decide)

theorem yields_joint {word : String} (known : ∀ letter ∈ word.toList, IsWordLetter letter)
    (some : word.toList ≠ [])
    (yields : RuleYields ((gap.andThen (keyword word)).andThen gap) cursor value after) :
    ∃ front written back, Joins word cursor front written back after := by
  obtain ⟨_, second, yields, gapBack⟩ := yields_andThen yields
  obtain ⟨_, first, gapFront, worded⟩ := yields_andThen yields
  obtain ⟨front, spansFront, blankFront, apartFront⟩ := yields_gap gapFront
  obtain ⟨written, spansWord, spelled⟩ := yields_keyword known worded
  obtain ⟨back, spansBack, blankBack, apartBack⟩ := yields_gap gapBack
  have writtenSome : written ≠ [] := by
    rintro rfl
    exact some spelled.symm
  have notOpen : first.ahead.head? ≠ .some '(' := by
    rw [spansWord.ahead, List.head?_append_of_ne_nil _ writtenSome]
    intro opened
    exact (spelled.ne_parenthesis known (List.mem_of_mem_head? opened)).1 rfl
  have notClose : second.behind.head? ≠ .some ')' := by
    rw [spansWord.head?_behind writtenSome]
    intro closed
    exact (spelled.ne_parenthesis known (List.mem_of_getLast? closed)).2 rfl
  exact ⟨front, written, back, (spansFront.trans spansWord).trans spansBack, blankFront,
    apartFront.imp_right (Or.resolve_right · notOpen), spelled, blankBack,
    apartBack.imp_right (Or.resolve_left · notClose)⟩

/-- An operand, alone or with the word and the rest of the chain behind it. -/
theorem yields_chain {operand same : Level} {word : String} {kind : Junction}
    (known : ∀ letter ∈ word.toList, IsWordLetter letter) (some : word.toList ≠ [])
    (yields : RuleYields (chain operand same word kind) cursor value after) :
    ∃ left middle, RuleYields (.forward operand) cursor left middle ∧
      (value = left ∧ after = middle ∨ ∃ front written back start right,
        Joins word middle front written back start ∧ RuleYields (.forward same) start right after ∧
          value = junctionOf kind left right) := by
  obtain ⟨left, middle, first, tail, inside, right, reads, same⟩ := yields_step yields
  refine ⟨left, middle, first, ?_⟩
  rw [List.mem_cons, List.mem_singleton] at inside
  rcases inside with rfl | rfl
  · obtain ⟨_, start, joint, rest⟩ := yields_andThen reads
    obtain ⟨front, written, back, joins⟩ := yields_joint known some joint
    exact Or.inr ⟨front, written, back, start, right, joins, rest, same⟩
  · obtain ⟨count, scanned, rfl⟩ := yields_scan reads
    obtain ⟨-, rfl⟩ := Prod.mk.inj (Option.some.inj scanned)
    exact Or.inl ⟨same, rfl⟩

theorem Joins.shorter {word : String} {front written back : List Char}
    (joins : Joins word cursor front written back after) :
    after.ahead.length + word.toList.length ≤ cursor.ahead.length := by
  have length := joins.spans.length
  simp only [List.length_append, joins.spelled.length] at length
  omega

end EventRouting.RuleText
