import EventRouting.Proofs.RuleText.Answers

set_option autoImplicit false

namespace EventRouting.RuleText

open Text Grammar

/-- A token of one character or more, with no blank and no delimiter in it. -/
structure BareToken (token : List Char) : Prop where
  nonempty : token ≠ []
  bare : ∀ c ∈ token, isBare c = true

/-- What a text stands for that is a token of addresses or a domain as a whole. -/
def networkAtom? (text : List Char) : Option Atom :=
  match scanIp text, scanDomain text with
  | some (range, []), _ => some (.ip range)
  | _, some (pattern, []) => some (.domainName pattern)
  | _, _ => none

variable {behind key value network text : List Char} {atom : Atom} {least : Nat}

theorem networkText_of_networkAtom? (found : networkAtom? text = some atom) : NetworkText text atom := by
  unfold networkAtom? at found
  split at found
  · next scanned =>
    obtain ⟨token, spelled, -, same⟩ := ipText_of_scanIp scanned
    obtain rfl := Option.some.inj found
    rw [same, List.append_nil]
    exact .ip spelled
  · next scanned _ =>
    obtain ⟨token, spelled, same⟩ := domainText_of_scanDomain scanned
    obtain rfl := Option.some.inj found
    rw [same, List.append_nil]
    exact .domainName spelled
  · contradiction

theorem BareToken.keyToken (keyed : BareToken key) : KeyToken key (some (String.ofList key)) :=
  .string (.bare keyed.nonempty keyed.bare)

theorem BareToken.valueToken (valued : BareToken value) :
    ValueToken value (some (.string (String.ofList value))) :=
  .string (.bare valued.nonempty valued.bare)

/-- A sign behind a key keeps it from being a denial. -/
theorem BareToken.opening_sign (keyed : BareToken key) {sign : Char} (ends : isBare sign = false)
    (visible : isBlank sign = false) (notOpen : sign ≠ '(') (rest : List Char) :
    Opening (key ++ sign :: rest) := by
  refine .token rfl keyed.nonempty keyed.bare ?_ fun _ => ?_
  · rw [EndsBare, forall_head_cons]
    exact ends
  · rw [Visible, forall_head_cons, forall_head_cons]
    exact ⟨visible, notOpen⟩

/-- Before white space, a key other than `no` is not a denial either. -/
theorem BareToken.opening_blank (keyed : BareToken key) (other : ¬Spells "no" key) (rest : List Char) :
    Opening (key ++ ' ' :: rest) := by
  refine .token rfl keyed.nonempty keyed.bare ?_ fun spells => absurd spells other
  rw [EndsBare, forall_head_cons]
  decide

theorem BareToken.readsOperand_equal (keyed : BareToken key) (valued : BareToken value) :
    ReadsOperand (.test .matching (some (String.ofList key)) (some (.string (String.ofList value))))
      (key ++ ['='] ++ value) := by
  apply readsOperand_of_basic (ne_close_of_bare valued.nonempty valued.bare _)
  · intro rest ends
    simp only [List.append_assoc]
    exact keyed.opening_sign (by decide) (by decide) (by decide) _
  · intro behind rest least boundary ending
    have reads := @reads_equal behind rest least _ _ _ [] ['='] [] _ keyed.keyToken blanks_nil
      (.inl rfl) blanks_nil
      valued.valueToken boundary
    simpa using reads

theorem BareToken.readsOperand_unequal (keyed : BareToken key) (valued : BareToken value) :
    ReadsOperand (.test .nonMatching (some (String.ofList key)) (some (.string (String.ofList value))))
      (key ++ ['!', '='] ++ value) := by
  apply readsOperand_of_basic (ne_close_of_bare valued.nonempty valued.bare _)
  · intro rest ends
    simp only [List.append_assoc]
    exact keyed.opening_sign (by decide) (by decide) (by decide) _
  · intro behind rest least boundary ending
    have reads := @reads_unequal behind rest least _ _ _ [] [] _ keyed.keyToken blanks_nil blanks_nil
      valued.valueToken boundary
    simpa using reads

theorem spells_in : Spells "in" ['i', 'n'] := by simp [Spells]

theorem spells_not : Spells "not" ['n', 'o', 't'] := by simp [Spells]

theorem BareToken.readsOperand_inside (keyed : BareToken key) (other : ¬Spells "no" key)
    (networked : NetworkText network atom) :
    ReadsOperand (.test .matching (some (String.ofList key)) (some atom))
      (key ++ [' '] ++ ['i', 'n'] ++ [' '] ++ network) := by
  apply readsOperand_of_basic (networked.last_ne _)
  · intro rest ends
    simp only [List.append_assoc]
    exact keyed.opening_blank other _
  · intro behind rest least boundary ending
    exact reads_inside keyed.keyToken blanks_space (by simp) spells_in blanks_space
      (by simp) networked boundary
      ending

theorem BareToken.readsOperand_outside (keyed : BareToken key) (other : ¬Spells "no" key)
    (networked : NetworkText network atom) :
    ReadsOperand (.test .nonMatching (some (String.ofList key)) (some atom))
      (key ++ [' '] ++ ['n', 'o', 't'] ++ [' '] ++ ['i', 'n'] ++ [' '] ++ network) := by
  apply readsOperand_of_basic (networked.last_ne _)
  · intro rest ends
    simp only [List.append_assoc]
    exact keyed.opening_blank other _
  · intro behind rest least boundary ending
    exact reads_outside keyed.keyToken blanks_space (by simp) spells_not blanks_space (by simp) spells_in
      blanks_space (by simp) networked boundary ending

/-- The words that need white space or a parenthesis on both sides. -/
def spacedWords : List String := ["and", "or", "not", "in"]

theorem isWordLetter_of_mem {word : String} (known : word ∈ spacedWords) :
    ∀ letter ∈ word.toList, IsWordLetter letter := by
  simp only [spacedWords, List.mem_cons, List.not_mem_nil, or_false] at known
  rcases known with rfl | rfl | rfl | rfl <;> simp [IsWordLetter]

theorem Spells.some_of_mem {word : String} {written : List Char} (spells : Spells word written)
    (known : word ∈ spacedWords) : written ≠ [] := by
  rintro rfl
  have empty : word.toList = [] := Eq.symm spells
  simp only [spacedWords, List.mem_cons, List.not_mem_nil, or_false] at known
  rcases known with rfl | rfl | rfl | rfl <;> simp at empty

theorem Spells.bare {word : String} {written : List Char} (spells : Spells word written)
    (letters : ∀ letter ∈ word.toList, IsWordLetter letter) : ∀ c ∈ written, isBare c = true := by
  intro c inside
  refine bare_of_toLower (letters c.toLower ?_) rfl
  rw [← show written.map Char.toLower = word.toList from spells]
  exact List.mem_map_of_mem inside

/-- No address begins with a word: `in` and `not` begin with no digit, and behind the `a` of `and` stands
no colon. -/
theorem IpText.not_word {range : IpRange} (spelled : IpText network range) {word : String}
    {written after : List Char}
    (known : word ∈ spacedWords) (spells : Spells word written) : network ≠ written ++ after := by
  rintro rfl
  obtain ⟨c, more, shape, char⟩ := spelled.first []
  rw [List.append_nil] at shape
  have scanned : scanIp (written ++ after ++ []) = some (range, []) :=
    scanIp_append spelled rfl (.finish rfl)
  have noJunction (junction : word ∈ junctionWords) : False := by
    have visible : Visible (written ++ after) := by
      rw [Visible, shape, forall_head_cons]
      exact not_blank_of_bare (isBare_of_isColonsChar char)
    have none := (Ending.word junction spells (dropBlanks_visible visible)).no_address
    rw [dropBlanks_visible visible] at none
    simp [scanIp, none] at scanned
  have letter {first : Char} {others : List Char} (letters : word.toList = first :: others) :
      c.toLower = first := by
    obtain ⟨d, rest, same, lower⟩ := spells.in_first letters after
    rw [shape] at same
    rw [(List.cons.inj same).1, lower]
  have notOperator := no_operator_of_isColonsChar char
  simp only [spacedWords, List.mem_cons, List.not_mem_nil, or_false] at known
  rcases known with rfl | rfl | rfl | rfl
  · exact noJunction (by simp [junctionWords])
  · exact noJunction (by simp [junctionWords])
  · exact notOperator.2.2.2 (letter not_letters)
  · exact notOperator.2.2.1 (letter in_letters)

/-- A network that begins like a word goes on behind it. -/
theorem NetworkText.bare_behind_word (networked : NetworkText network atom) {word : String}
    {written after : List Char} (known : word ∈ spacedWords) (spells : Spells word written)
    (same : network = written ++ after) :
    ∃ c more, after = c :: more ∧ isBare c = true := by
  cases networked with
  | ip spelled => exact absurd same (spelled.not_word known spells)
  | domainName spelled =>
    obtain ⟨count, some, bare, read⟩ := spelled
    rename_i token
    cases count with
    | zero =>
      have same : token = written ++ after := same
      cases after with
      | nil =>
        have keyword : isKeyword written = true := by
          rw [isKeyword, spells]
          simp only [spacedWords, List.mem_cons, List.not_mem_nil, or_false] at known
          rcases known with rfl | rfl | rfl | rfl <;> decide
        have free := not_keyword_of_read some bare read
        rw [same, List.append_nil, keyword] at free
        contradiction
      | cons c more => exact ⟨c, more, rfl, bare c (by rw [same]; simp)⟩
    | succ count =>
      cases written with
      | nil => exact absurd rfl (spells.some_of_mem known)
      | cons c more =>
        have first : '*' = c := (List.cons.inj same).1
        have bareFirst := spells.bare (isWordLetter_of_mem known) c List.mem_cons_self
        rw [← first] at bareFirst
        exact absurd bareFirst (by decide)

theorem NetworkText.visible_alone (networked : NetworkText network atom) : Visible network := by
  simpa using networked.visible []

/-- Between white space and a network no word is read as one that stands apart. -/
theorem NetworkText.spaced_word_none (networked : NetworkText network atom) {word : String}
    {space : RuleGrammar} (known : word ∈ spacedWords)
    (spaces : RuleReads space ⟨behind, ' ' :: network⟩ least
      (some (.nothing, ⟨' ' :: behind, network⟩)))
    (close : ∀ c more written, isBare c = true → written ≠ [] →
      (∀ d ∈ written, isBare d = true) →
      RuleReads space ⟨written.reverse ++ ' ' :: behind, c :: more⟩ least none) :
    RuleReads ((space.andThen (keyword word)).andThen space) ⟨behind, ' ' :: network⟩ least none := by
  have letters := isWordLetter_of_mem known
  cases spelled : spelled? word.toList network with
  | none => exact Reads.andThen_first (Reads.andThen_second spaces (keyword_none_of_spelled? spelled))
  | some written =>
    obtain ⟨spells, after, same⟩ := eq_append_of_spelled? letters spelled
    obtain ⟨c, more, rfl, bare⟩ := networked.bare_behind_word known spells same
    have worded : RuleReads (keyword word) ⟨' ' :: behind, network⟩ least
        (.some (.nothing, ⟨written.reverse ++ ' ' :: behind, c :: more⟩)) := by
      rw [same]
      exact reads_keyword letters spells
    exact Reads.andThen_second (Reads.andThen spaces worded)
      (close c more written bare (Spells.some_of_mem spells known) (Spells.bare spells letters))

theorem NetworkText.blanks_word_none (networked : NetworkText network atom) {word : String}
    (known : word ∈ spacedWords) :
    RuleReads ((blanks.andThen (keyword word)).andThen blanks) ⟨behind, ' ' :: network⟩ least none := by
  have visible := networked.visible_alone
  refine networked.spaced_word_none known (reads_blanks blanks_space (by simp) visible) ?_
  intro c more written bare _ _
  refine blanks_none ?_
  rw [Visible, forall_head_cons]
  exact not_blank_of_bare bare

theorem NetworkText.link_none (networked : NetworkText network atom) {word : String} {same : Level}
    (known : word ∈ spacedWords) :
    RuleReads (link word same) ⟨behind, ' ' :: network⟩ least none := by
  have visible := networked.visible_alone
  apply Reads.andThen_first
  refine networked.spaced_word_none known (reads_gap blanks_space visible (.inl (by simp))) ?_
  intro c more written bare some bareWord
  refine gap_none ?_ ?_ ?_
  · rw [Visible, forall_head_cons]
    exact not_blank_of_bare bare
  · rw [List.head?_append_of_ne_nil _ (by simpa using some), List.head?_reverse]
    exact ne_close_of_bare some bareWord []
  · rintro same
    obtain rfl := Option.some.inj same
    exact absurd bare (by decide)

theorem NetworkText.first_ne (networked : NetworkText network atom) {sign : Char}
    (delimiter : isBare sign = false)
    (notStar : sign ≠ '*') : ∀ c ∈ (dropBlanks (' ' :: network)).head?, c ≠ sign := by
  have visible := networked.visible_alone
  rw [show ' ' :: network = [' '] ++ network from rfl, dropBlanks_append blanks_space,
    dropBlanks_visible visible]
  rintro c first rfl
  have inside := List.mem_of_mem_head? first
  cases networked with
  | ip spelled =>
    obtain ⟨d, more, shape, char⟩ := spelled.first []
    rw [List.append_nil] at shape
    rw [shape, List.head?_cons, Option.mem_some_iff] at first
    rw [← first, isBare_of_isColonsChar char] at delimiter
    contradiction
  | domainName spelled =>
    obtain ⟨count, some, bare, -⟩ := spelled
    cases count with
    | zero =>
      rw [bare c inside] at delimiter
      contradiction
    | succ count => exact notStar (Option.some.inj first).symm

/-- Behind a key and white space, a network is no operator. -/
theorem NetworkText.tails_none (networked : NetworkText network atom) {left : Phrase} :
    ReadsAfter definitions left ⟨behind, ' ' :: network⟩ keyTails least none := by
  apply ReadsAfter.next
  · apply Reads.union_next
    · apply Reads.andThen_first
      apply Reads.andThen_first
      apply Reads.andThen_first
      exact blanks_mark_none equal_letters _ (networked.first_ne (by decide) (by decide))
    · apply Reads.union_next _ Reads.union_nil
      exact Reads.andThen_first (networked.blanks_word_none (by simp [spacedWords]))
  · apply ReadsAfter.next _ ReadsAfter.nil
    apply Reads.union_next
    · apply Reads.andThen_first
      apply Reads.andThen_first
      exact blanks_mark_none unequal_letters _ (networked.first_ne (by decide) (by decide))
    · apply Reads.union_next _ Reads.union_nil
      apply Reads.andThen_first
      apply Reads.andThen_first
      apply Reads.andThen_first
      exact networked.blanks_word_none (by simp [spacedWords])

theorem bareToken_in : BareToken ['i', 'n'] where
  nonempty := by simp
  bare := List.all_eq_true.1 (by decide)

/-- The word `in` before a network is read as a string. -/
theorem NetworkText.reads_word_in (networked : NetworkText network atom) :
    RuleReads (.forward .unary) ⟨behind, ['i', 'n'] ++ ' ' :: network⟩ (least + 1)
      (some (.rule (.fuzzy (.string "in")), ⟨['n', 'i'] ++ behind, ' ' :: network⟩)) := by
  have ends : EndsBare (' ' :: network) := by
    rw [EndsBare, forall_head_cons]
    decide
  have opening := bareToken_in.opening_blank (by simp [Spells]) network
  have keyed : RuleReads keyOrStar ⟨behind, ['i', 'n'] ++ ' ' :: network⟩ least _ :=
    reads_keyOrStar bareToken_in.keyToken ends
  have scanned := scanString_bare bareToken_in.nonempty bareToken_in.bare ends
  apply Reads.forward rfl
  apply Reads.union_next opening.negation_none
  apply Reads.union_next opening.parentheses_none
  apply Reads.union_here
  apply Reads.union_next (token_none _ (scanRegexp_bare bareToken_in.nonempty bareToken_in.bare _))
  apply Reads.union_next (Reads.step keyed networked.tails_none)
  apply Reads.union_next (Reads.map_none (network_none rfl ?_))
  · exact Reads.union_here ((reads_token stringOperand scanned).map fuzzyOf)
  · have none : scanDomain ['i', 'n'] = none := by decide +kernel
    rw [scanDomain_bare bareToken_in.nonempty bareToken_in.bare ends, none]
    rfl

/-- `no in x` is read up to the white space before the network, as the denial of the string `in`. -/
theorem NetworkText.reads_no_in (networked : NetworkText network atom) {word : List Char}
    (spells : Spells "no" word) :
    RuleReads (.forward .unary) ⟨behind, word ++ ' ' :: 'i' :: 'n' :: ' ' :: network⟩ (least + 2)
      (some (.rule (.no (.fuzzy (.string "in"))),
        ⟨(word ++ [' ', 'i', 'n']).reverse ++ behind, ' ' :: network⟩)) := by
  have visible : Visible ('i' :: 'n' :: ' ' :: network) := by
    rw [Visible, forall_head_cons]
    decide
  have denied : RuleReads (.union [someBlanks.andThen parentheses, blanks.andThen (.forward .unary)])
      ⟨word.reverse ++ behind, [' '] ++ 'i' :: 'n' :: ' ' :: network⟩ (least + 1)
      (.some (.rule (.fuzzy (.string "in")),
        ⟨['n', 'i'] ++ (' ' :: (word.reverse ++ behind)), ' ' :: network⟩)) := by
    apply Reads.union_next
    · apply Reads.andThen_second (reads_someBlanks blanks_space visible)
      apply Reads.sequence_none (mark_none open_letters _ _)
      rw [forall_head_cons]
      decide
    · apply Reads.union_here
      exact Reads.andThen (reads_blanks blanks_space (by simp) visible) networked.reads_word_in
  have reads := (Reads.andThen (reads_keyword no_word spells) denied).map noOf
  exact RuleReads.congr (Reads.forward rfl (Reads.union_here reads)) (by simp) (by simp)

theorem NetworkText.not_nil (networked : NetworkText network atom) : network ≠ [] := by
  have token : NetworkToken network atom [] := by
    cases networked with
    | ip spelled => exact .ip spelled rfl
    | domainName spelled => exact .domainName spelled
  exact token.not_nil

/-- No word joins the network to what is denied, so the network is left over. -/
theorem NetworkText.reads_left_over (networked : NetworkText network atom) {word : List Char}
    (spells : Spells "no" word) :
    RuleReads (.forward .expression) (.start (word ++ ' ' :: 'i' :: 'n' :: ' ' :: network)) 5
      (some (.rule (.no (.fuzzy (.string "in"))),
        ⟨(word ++ [' ', 'i', 'n', ' ']).reverse, network⟩)) := by
  have visible := networked.visible_alone
  have visibleWord : Visible (word ++ ' ' :: 'i' :: 'n' :: ' ' :: network) :=
    (spells.first_facts no_letters (by decide) _).1
  have operand := @NetworkText.reads_no_in [] network atom 0 networked word spells
  have conjunction : RuleReads (.forward .conjunction) _ _ (some _) :=
    reads_chain_single rfl operand (networked.link_none (by simp [spacedWords]))
  have disjunction : RuleReads (.forward .disjunction) _ _ (some _) :=
    reads_chain_single rfl conjunction (networked.link_none (by simp [spacedWords]))
  have whole := Reads.andSkip (Reads.andThen (reads_someBlanks blanks_nil visibleWord) disjunction)
    (reads_someBlanks blanks_space visible)
  exact RuleReads.congr (Reads.forward rfl whole) rfl (by simp)

/-- A text that is not read to its end is refused. -/
theorem parse_eq_error {text : String} {phrase : Phrase} {left : List Char} (remains : left ≠ [])
    (reads : RuleReads (.forward .expression)
      (.start text.toList) least (some (phrase, ⟨behind, left⟩)))
    (enough : least ≤ budget definitions text.toList) : parse text = .error (.parse text) := by
  have parsed := parse_eq_of_reads reads enough
  simp only [parse, build_definitions, parsed, Except.mapError, bind, Except.bind]
  cases left with
  | nil => exact absurd rfl remains
  | cons c more => cases phrase <;> rfl

theorem ReadsOperand.parse {expression : Expression} {text : String}
    (reads : ReadsOperand expression text.toList) :
    parse text = .ok expression := by
  have read := reads.read?
  rw [String.ofList_toList, read?_eq_toOption] at read
  exact ok_of_toOption read

theorem NetworkText.parse_no_in (networked : NetworkText network atom) {word : String}
    (spells : Spells "no" word.toList) {text : String}
    (shape : text.toList = word.toList ++ ' ' :: 'i' :: 'n' :: ' ' :: network) :
    parse text = .error (.parse text) := by
  have reads := networked.reads_left_over spells
  rw [← shape] at reads
  refine parse_eq_error networked.not_nil reads ?_
  have names : definitions.entries.length = 4 := rfl
  rw [budget, names, shape, List.length_append]
  simp only [List.length_cons]
  omega

theorem bareToken_not : BareToken ['n', 'o', 't'] where
  nonempty := by simp
  bare := List.all_eq_true.1 (by decide)

/-- `no not in x` denies a test under the key `not`. -/
theorem NetworkText.parse_no_not_in (networked : NetworkText network atom) {word : List Char}
    (spells : Spells "no" word) {text : String}
    (shape : text.toList = word ++ ' ' :: 'n' :: 'o' :: 't' :: ' ' :: 'i' :: 'n' :: ' ' :: network) :
    parse text = .ok (.no (.test .matching (some "not") (some atom))) := by
  have tested := bareToken_not.readsOperand_inside (by simp [Spells]) networked
  have denied := readsOperand_no spells ⟨blanks_space, .inl (by simp)⟩ tested
  refine ReadsOperand.parse ?_
  rw [shape]
  simpa using denied

/-- Any two bare tokens make a test with a sign between them, and any bare token makes one with a network
behind `in` or `not in`, unless it is the word `no` in some letter case: then the text is read as a
denial. -/
theorem every_bare_token_is_a_key (key value network : String) (atom : Atom) (keyed : BareToken key.toList)
    (valued : BareToken value.toList) (networked : networkAtom? network.toList = some atom) :
    parse (key ++ "=" ++ value) = .ok (.test .matching (some key) (some (.string value))) ∧
      parse (key ++ "!=" ++ value) = .ok (.test .nonMatching (some key) (some (.string value))) ∧
      (¬Spells "no" key.toList →
        parse (key ++ " in " ++ network) = .ok (.test .matching (some key) (some atom)) ∧
        parse (key ++ " not in " ++ network) = .ok (.test .nonMatching (some key) (some atom))) ∧
      (Spells "no" key.toList →
        parse (key ++ " in " ++ network) = .error (.parse (key ++ " in " ++ network)) ∧
        parse (key ++ " not in " ++ network) = .ok (.no (.test .matching (some "not") (some atom)))) := by
  have text := networkText_of_networkAtom? networked
  refine ⟨ReadsOperand.parse ?_, ReadsOperand.parse ?_,
    fun other => ⟨ReadsOperand.parse ?_, ReadsOperand.parse ?_⟩,
    fun spells => ⟨text.parse_no_in spells ?_, text.parse_no_not_in spells ?_⟩⟩
  · simpa using keyed.readsOperand_equal valued
  · simpa using keyed.readsOperand_unequal valued
  · simpa using keyed.readsOperand_inside other text
  · simpa using keyed.readsOperand_outside other text
  · simp
  · simp

/-- Other words of the language are keys with every operator. -/
theorem every_bare_token_is_a_key_in :
    parse "in=no" = .ok (.test .matching (some "in") (some (.string "no"))) ∧
      parse "in not in 10.0.0.1" =
        .ok (.test .nonMatching (some "in")
          (some (.ip (.ofAddress ⟨.v4, 0x0a000001, by decide⟩)))) := by
  have tests := every_bare_token_is_a_key "in" "no" "10.0.0.1"
    (.ip (.ofAddress ⟨.v4, 0x0a000001, by decide⟩))
    ⟨by simp, List.all_eq_true.1 (by decide)⟩ ⟨by simp, List.all_eq_true.1 (by decide)⟩
    (by decide +kernel)
  exact ⟨tests.1, (tests.2.2.1 (by simp [Spells])).2⟩

/-- The word `no` is taken for a denial of what follows it, and then the network is left over. -/
theorem no_is_no_key_of_a_network :
    BareToken "no".toList ∧
      networkAtom? "10.0.0.1".toList = some (.ip (.ofAddress ⟨.v4, 0x0a000001, by decide⟩)) ∧
      parse "no in 10.0.0.1" = .error (.parse "no in 10.0.0.1") := by
  have found : networkAtom? "10.0.0.1".toList =
      some (.ip (.ofAddress ⟨.v4, 0x0a000001, by decide⟩)) := by
    decide +kernel
  refine ⟨⟨by simp, List.all_eq_true.1 (by decide)⟩, found, ?_⟩
  exact (networkText_of_networkAtom? found).parse_no_in
    (show Spells "no" "no".toList by simp [Spells]) (by simp)

end EventRouting.RuleText
