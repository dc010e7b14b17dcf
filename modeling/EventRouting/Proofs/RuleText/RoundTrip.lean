import EventRouting.Proofs.Network.AddressText
import EventRouting.Proofs.Network.Blocks
import EventRouting.Proofs.RuleText.Layouts
import EventRouting.Proofs.RuleText.Scanned

set_option autoImplicit false

namespace EventRouting.RuleText

open Text

theorem unit?_control : ∀ point < 32, Json.unit? '0' '0' (Json.hexDigit (point / 16))
    (Json.hexDigit (point % 16)) = some point ∧ Json.isHighSurrogate point = false ∧
      Json.isLowSurrogate point = false := by
  decide

/-- Between quotes each character stands for itself or is escaped. -/
theorem quoted_escapedChar (c : Char) {text value : List Char} (rest : Quoted text value) :
    Quoted (Json.escapedChar c ++ text) (c :: value) := by
  unfold Json.escapedChar
  split
  · exact .escape rfl rest
  · exact .escape rfl rest
  · exact .escape rfl rest
  · exact .escape rfl rest
  · exact .escape rfl rest
  · exact .escape rfl rest
  · exact .escape rfl rest
  · rename_i notQuote notBackslash _ _ _ _ _
    split
    · rename_i control
      obtain ⟨digits, notHigh, notLow⟩ := unit?_control c.toNat control
      have read := Quoted.unit digits notHigh notLow rest
      rwa [Char.ofNat_toNat] at read
    · rename_i printable
      exact .plain (Nat.le_of_not_lt printable) notQuote notBackslash rest

theorem quoted_flatMap (value : List Char) : Quoted (value.flatMap Json.escapedChar) value := by
  induction value with
  | nil => exact .nil
  | cons c rest ih =>
    rw [List.flatMap_cons]
    exact quoted_escapedChar c ih

theorem stringText_quoted (value : List Char) : StringText (Json.writeString value) value :=
  .quoted (quoted_flatMap value)

theorem stringText_writeString (value : List Char) : StringText (writeString value) value := by
  unfold writeString
  split
  · exact stringText_quoted value
  · rename_i plain
    simp only [Bool.or_eq_true, List.isEmpty_iff, Bool.not_eq_true', not_or, Bool.not_eq_true,
      Bool.not_eq_false] at plain
    exact .bare plain.1.1 (by simpa using plain.1.2) plain.2

theorem StringText.leafText {text value : List Char} (spelled : StringText text value)
    (notIp : scanIp value = none) (notDomain : scanDomain value = none) :
    LeafText (.fuzzy (.string (String.ofList value))) text := by
  cases spelled with
  | bare some bare free => exact .bare some bare free notIp notDomain
  | quoted quoted => exact .quoted quoted

/-- A string that stands alone is quoted if anything else could be read from its bare form. -/
theorem leafText_writeAlone (value : List Char) :
    LeafText (.fuzzy (.string (String.ofList value))) (writeAlone value) := by
  unfold writeAlone
  split
  · exact .quoted (quoted_flatMap value)
  · rename_i other
    simp only [Bool.or_eq_true, not_or, Bool.not_eq_true, Option.isSome_eq_false_iff,
      Option.isNone_iff_eq_none] at other
    exact (stringText_writeString value).leafText other.1 other.2

/-- The slashes of a source are escaped again as they were. -/
theorem escapeSlashes_unescapeSlashes {source : List Char} (spelled : SourceText source) :
    escapeSlashes (unescapeSlashes source) = source := by
  induction spelled with
  | nil => rfl
  | escaped sameLine _ ih =>
    rename_i c text _
    by_cases slash : c = '/'
    · rw [slash, unescapeSlashes.eq_1, escapeSlashes.eq_2, ih]
    · rw [unescapeSlashes.eq_2 _ _ slash, escapeSlashes.eq_1, ih]
  | plain notBackslash notSlash _ ih =>
    rename_i c text _
    rw [unescapeSlashes.eq_3 _ _ (fun _ same _ => notBackslash same) (fun _ _ same _ => notBackslash same),
      escapeSlashes.eq_3 _ _ (fun _ _ same _ => notBackslash same) notSlash, ih]

theorem regexpText_writeRegexp {regexp : Regexp} (scanned : Scanned (.regexp regexp)) :
    RegexpText (writeRegexp regexp) regexp := by
  obtain ⟨source, ignoreCase, spelled, valid⟩ := scanned
  have parts : regexp.source.toList = unescapeSlashes source ∧ regexp.ignoreCase = ignoreCase := by
    unfold Regexp.ofSource at valid
    split at valid
    · contradiction
    · simp only at valid
      split at valid
      · obtain rfl := Except.ok.inj valid
        exact ⟨String.toList_ofList, rfl⟩
      · contradiction
  rw [writeRegexp, parts.1, parts.2, escapeSlashes_unescapeSlashes spelled]
  exact .regexp spelled valid

theorem ipText_write (range : IpRange) : IpText range.write range := by
  have first := IpAddress.read?_write range.firstAddress
  rcases (Subnets.largest_cuts range).writeBy_cases with
    ⟨same, written⟩ | ⟨-, bits, block, written⟩ | ⟨-, -, written⟩ <;>
      rw [IpRange.write, written]
  · have text := IpText.address first
    rwa [IpRange.ofAddress_firstAddress same] at text
  · have small : bits < 10 ^ 5 := by
      have wide : range.family.width ≤ 128 := by cases range.family <;> decide
      have fits := block.bits_le
      omega
    have text := IpText.block first blanks_nil blanks_nil Nat.toDigits_ne_nil
      ((Nat.length_toDigits_le_iff (by decide) (by decide)).2 small)
      (fun c inside => Nat.isDigit_of_mem_toDigits (by decide) (by decide) inside)
      (by rw [IpAddress.decimalValue_toDigits]; exact block.ofBlock_firstAddress)
    simpa using text
  · have text := IpText.ends first blanks_nil blanks_nil (IpAddress.read?_write range.lastAddress)
      (IpRange.ofEnds_addresses range)
    simpa using text

theorem bare_of_isLabelChar {c : Char} (char : DomainName.isLabelChar c = true) : isBare c = true := by
  have code := DomainName.code_of_isLabelChar char
  exact isBare_of_code (by omega)

theorem domainText_write {pattern : DomainPattern} (scanned : Scanned (.domainName pattern)) :
    DomainText pattern.write pattern := by
  obtain ⟨text, read⟩ := scanned
  obtain ⟨rest, labels, readRest, enough, same⟩ := DomainPattern.labels_of_read read
  obtain ⟨some, normal, again⟩ := DomainName.readLabels_joinWith readRest
  have bare : ∀ c ∈ joinWith ['.'] labels, isBare c = true := by
    intro c inside
    rcases mem_joinWith inside with rfl | ⟨label, member, inside⟩
    · decide
    · exact bare_of_isLabelChar ((normal label member).chars c inside)
  have someText : joinWith ['.'] labels ≠ [] := (DomainName.readLabels_eq_ok again).1
  have plain := head_bare someText bare []
  rw [List.append_nil] at plain
  rw [DomainPattern.write_eq same]
  refine .domain pattern.free someText bare ?_
  rw [DomainPattern.read_append (trim_wildcards _ someText bare) someText plain, again]
  change (if pattern.free + labels.length < 2 then _ else _) = _
  rw [if_neg (by omega), ← same]

theorem keyText_writeKey (key : Option String) : KeyText (writeKey key) key := by
  cases key with
  | none => exact .any
  | some key =>
    have text := KeyText.string (stringText_writeString key.toList)
    rwa [String.ofList_toList] at text

theorem valueText_string (value : String) :
    ValueText (writeString value.toList) (some (.string value)) := by
  have text := ValueText.string (stringText_writeString value.toList)
  rwa [String.ofList_toList] at text

theorem leafText_value (sense : Sense) (key : Option String) {atom : Option Atom} {text : List Char}
    (valued : ValueText text atom) :
    LeafText (.test sense key atom) (writeKey key ++ (match sense with
      | .matching => "=".toList
      | .nonMatching => "!=".toList) ++ text) := by
  cases sense with
  | matching =>
    have leaf := LeafText.equal (keyText_writeKey key) blanks_nil (Or.inl rfl) blanks_nil valued
    simpa using leaf
  | nonMatching =>
    have leaf := LeafText.unequal (keyText_writeKey key) blanks_nil blanks_nil valued
    simpa using leaf

theorem leafText_network (sense : Sense) (key : Option String) {atom : Atom} {text : List Char}
    (networked : NetworkText text atom) :
    LeafText (.test sense key (some atom)) (writeKey key ++ (match sense with
      | .matching => " in ".toList
      | .nonMatching => " not in ".toList) ++ text) := by
  have spellsIn : Spells "in" ['i', 'n'] := by simp [Spells]
  have spellsNot : Spells "not" ['n', 'o', 't'] := by simp [Spells]
  cases sense with
  | matching =>
    have leaf := LeafText.inside (keyText_writeKey key) blanks_space
      (by simp) spellsIn blanks_space (by simp)
      networked
    simpa using leaf
  | nonMatching =>
    have leaf := LeafText.outside (keyText_writeKey key) blanks_space (by simp) spellsNot blanks_space
      (by simp) spellsIn blanks_space (by simp) networked
    simpa using leaf

theorem leafText_writeTest (sense : Sense) (key : Option String) {atom : Option Atom}
    (scanned : ∀ value ∈ atom, Scanned value) :
    LeafText (.test sense key atom) (writeTest sense key atom) := by
  match atom with
  | none => cases sense <;> exact leafText_value _ key .any
  | some (.string value) => cases sense <;> exact leafText_value _ key (valueText_string value)
  | some (.regexp regexp) =>
    have text := regexpText_writeRegexp (scanned _ rfl)
    cases sense <;> exact leafText_value _ key (.regexp text)
  | some (.ip range) => cases sense <;> exact leafText_network _ key (.ip (ipText_write range))
  | some (.domainName pattern) =>
    have text := domainText_write (scanned _ rfl)
    cases sense <;> exact leafText_network _ key (.domainName text)

theorem leafText_writeFuzzy {atom : Atom} (scanned : Scanned atom) :
    LeafText (.fuzzy atom) (writeFuzzy atom) := by
  cases atom with
  | string value =>
    have leaf := leafText_writeAlone value.toList
    rwa [String.ofList_toList] at leaf
  | regexp regexp => exact .regexp (regexpText_writeRegexp scanned)
  | ip range => exact .network (.ip (ipText_write range))
  | domainName pattern => exact .network (.domainName (domainText_write scanned))

/-- An operand as it stands in a rule of the precedence. -/
def operandText (precedence : Nat) (operand : Rule) : List Char :=
  if operand.precedence < precedence then '(' :: writeBefore [] operand ++ [')'] else writeBefore [] operand

theorem writeOperands_eq (kind : Junction) (precedence : Nat) {operands : List Rule} (rest : List Char)
    (known : ∀ operand ∈ operands, ∀ rest, writeBefore rest operand =
      writeBefore [] operand ++ rest) :
    writeBefore.writeOperands kind precedence rest operands =
      joinWith (junctionWord kind) (operands.map (operandText precedence)) ++ rest := by
  induction operands with
  | nil => rfl
  | cons operand others ih =>
    have later := ih fun other inside => known other (List.mem_cons_of_mem _ inside)
    have here := known operand List.mem_cons_self
    cases others with
    | nil =>
      simp only [writeBefore.writeOperands, List.map_cons, List.map_nil, joinWith, operandText]
      split
      · rw [here]
        simp
      · rw [here]
    | cons next more =>
      rw [writeBefore.writeOperands.eq_3 _ _ _ _ _ (by simp), later]
      simp only [List.map_cons, joinWith, operandText]
      split
      · rw [here]
        simp
      · rw [here]
        simp

theorem writeBefore_append (rule : Rule) (rest : List Char) :
    writeBefore rest rule = writeBefore [] rule ++ rest := by
  induction rule using Rule.induct generalizing rest with
  | anything | test | fuzzy => simp [writeBefore]
  | no id operand ih =>
    rw [writeBefore, writeBefore]
    split
    · rw [ih, ih [')']]
      simp
    · rw [ih]
      simp
  | junction id kind operands ih =>
    rw [writeBefore, writeBefore, writeOperands_eq kind _ rest ih, writeOperands_eq kind _ [] ih,
      List.append_nil]

/-- The level at which a rule of the precedence can stand. -/
def levelOf : Nat → Level
  | 0 => .disjunction
  | 1 => .conjunction
  | _ => .unary

theorem Layout.loosen {least precedence : Nat} {expression : Expression} {text : List Char}
    (layout : Layout (levelOf precedence) expression text) (bound : least ≤ precedence) :
    Layout (levelOf least) expression text := by
  match least, precedence with
  | 0, 0 => exact layout
  | 0, 1 => exact .conjunction layout
  | 0, precedence + 2 => exact .conjunction (.unary layout)
  | 1, 1 => exact layout
  | 1, precedence + 2 => exact .unary layout
  | least + 2, precedence + 2 => exact layout

/-- Parentheses make an operand of a rule that binds more loosely. -/
theorem layout_operandText {precedence : Nat} {operand : Rule} {expression : Expression}
    (layout : Layout (levelOf operand.precedence) expression (writeBefore [] operand)) :
    Layout (levelOf precedence) expression (operandText precedence operand) := by
  unfold operandText
  split
  · have inner := Layout.expression blanks_nil (layout.loosen (Nat.zero_le _)) blanks_nil
    rw [List.nil_append, List.append_nil] at inner
    exact @Layout.loosen precedence (precedence + 2) _ _ (.parentheses inner) (Nat.le_add_right _ _)
  · rename_i tight
    exact layout.loosen (Nat.le_of_not_lt tight)

theorem layout_link {kind : Junction} {left right : Expression} {first second : List Char} (id : Nat)
    (operands : List Rule)
    (inLeft : Layout (levelOf (Rule.junction id kind operands).precedence) left first)
    (inRight : Layout (levelOf (Rule.junction id kind operands).precedence) right second) :
    Layout (levelOf (Rule.junction id kind operands).precedence) (.junction kind left [right])
      (first ++ junctionWord kind ++ second) := by
  cases kind with
  | and =>
    have spelled : Spells "and" ['a', 'n', 'd'] := by simp [Spells]
    have layout := Layout.and inLeft ⟨blanks_space, Or.inl (by simp)⟩ spelled
      ⟨blanks_space, Or.inl (by simp)⟩ inRight
    have word : junctionWord .and = [' '] ++ ['a', 'n', 'd'] ++ [' '] := by simp [junctionWord]
    rw [word, ← List.append_assoc, ← List.append_assoc]
    exact layout
  | or =>
    have spelled : Spells "or" ['o', 'r'] := by simp [Spells]
    have layout := Layout.or inLeft ⟨blanks_space, Or.inl (by simp)⟩ spelled
      ⟨blanks_space, Or.inl (by simp)⟩ inRight
    have word : junctionWord .or = [' '] ++ ['o', 'r'] ++ [' '] := by simp [junctionWord]
    rw [word, ← List.append_assoc, ← List.append_assoc]
    exact layout

/-- Operands with words between them are laid out as their junction, grouped to the right. -/
theorem layout_operands {kind : Junction} (id : Nat) (operands : List Rule) {first : Rule}
    {rest : List Rule} (known : ∀ operand ∈ first :: rest, ∃ expression,
      Layout (levelOf operand.precedence) expression (writeBefore [] operand) ∧
        expression.Agrees operand.expression) (some : rest ≠ []) :
    ∃ expression, Layout (levelOf (Rule.junction id kind operands).precedence) expression
        (joinWith (junctionWord kind) ((first :: rest).map
          (operandText (Rule.junction id kind operands).precedence))) ∧
      expression.Agrees (.junction kind first.expression (rest.map Rule.expression)) := by
  induction rest generalizing first with
  | nil => exact absurd rfl some
  | cons second more ih =>
    obtain ⟨left, layout, agrees⟩ := known first List.mem_cons_self
    have later := fun other inside => known other (List.mem_cons_of_mem first inside)
    cases more with
    | nil =>
      obtain ⟨right, layoutRight, agreesRight⟩ := later second List.mem_cons_self
      exact ⟨_, layout_link id operands (layout_operandText layout) (layout_operandText layoutRight),
        agrees.junction agreesRight⟩
    | cons third more =>
      obtain ⟨right, layoutRight, agreesRight⟩ := ih later (by simp)
      refine ⟨_, layout_link id operands (layout_operandText layout) layoutRight, ?_⟩
      exact (agrees.junction agreesRight).trans (Expression.junction_agrees_nested _ _ _ _).symm

open Store in
/-- What is written for a rule in the tables is a layout of the rule. -/
theorem layout_writeBefore {store : Store} {held nodes : List Handle} (ledger : Ledger store held nodes)
    {rule : Rule} (member : .rule rule ∈ nodes) (scanned : rule.form.Every Scanned) :
    ∃ expression, Layout (levelOf rule.precedence) expression (writeBefore [] rule) ∧
      expression.Agrees rule.expression := by
  induction rule using Rule.induct with
  | anything id => exact ⟨_, .leaf .anything, .refl _⟩
  | test id sense key atom =>
    have leaf := leafText_writeTest sense key scanned
    refine ⟨_, .leaf ?_, .refl _⟩
    rw [writeBefore, List.append_nil]
    exact leaf
  | fuzzy id atom =>
    refine ⟨_, .leaf ?_, .refl _⟩
    rw [writeBefore, List.append_nil]
    exact leafText_writeFuzzy scanned
  | no id operand ih =>
    obtain ⟨expression, layout, agrees⟩ := ih (ledger.part_mem member (by simp)) scanned
    have spelled : Spells "no" ['n', 'o'] := by simp [Spells]
    have text := Layout.no spelled ⟨blanks_space, Or.inl (by simp)⟩ (@layout_operandText 2 _ _ layout)
    refine ⟨_, ?_, agrees.no⟩
    have written : writeBefore [] (.no id operand) = ['n', 'o'] ++ [' '] ++ operandText 2 operand := by
      rw [writeBefore, operandText, writeBefore_append operand [')']]
      rfl
    rw [written]
    exact text
  | junction id kind operands ih =>
    obtain ⟨many, -, -⟩ := ledger.flat _ member
    have known := ledger.operands_mem member
    rw [Rule.form_junction, Form.every_junction] at scanned
    have laid := fun operand inside =>
      ih operand inside (known operand inside) (scanned _ (List.mem_map_of_mem inside))
    obtain ⟨first, second, more, rfl⟩ := Rule.operands_eq_cons many
    obtain ⟨expression, layout, agrees⟩ := layout_operands id (first :: second :: more) laid (by simp)
    refine ⟨expression, ?_, ?_⟩
    · rw [writeBefore, writeOperands_eq _ _ _ fun operand _ => writeBefore_append operand, List.append_nil]
      exact layout
    · rw [Rule.expression_junction]
      exact agrees

open Store Workspace in
/-- In every state of every run, a rule that was read from a text and is in use is written as a text that is
read as the same rule, at any later time at which the rule is still in use. -/
theorem read_write {work later : Workspace} (first : Run start work) (more : Run work later)
    {text : String} {expression : Expression} (read : RuleText.read? text = some expression)
    (live : later.Live (.rule (expression.build work.store).1)) :
    ∃ again, RuleText.read? (write (expression.build work.store).1) = some again ∧
      (again.build later.store).1 = (expression.build work.store).1 := by
  have sound := first.sound start_sound
  have told := first.told start_sound start_told
  obtain ⟨after, -, -, form, -, -⟩ := sound.built told expression
  generalize (expression.build work.store).1 = rule at live form ⊢
  have laterSound := more.sound sound
  have laterTold := more.told sound told
  obtain ⟨nodes, ledger⟩ := laterSound.balanced
  have member := (ledger.mem_iff_reachable _).2 live
  have scanned := (scanned_of_read? read).of_same form
  obtain ⟨laid, layout, agrees⟩ := layout_writeBefore ledger member scanned
  have whole := Layout.expression blanks_nil (layout.loosen (Nat.zero_le _)) blanks_nil
  rw [List.nil_append, List.append_nil] at whole
  obtain ⟨again, reread, agreesAgain⟩ := whole.read?
  refine ⟨again, reread, laterSound.build_known laterTold live ?_⟩
  exact Form.same_trans (ledger.form_expression member) (agreesAgain.trans agrees).symm

open Store Workspace in
/-- A denial, written and read again while it is held. -/
theorem read_write_negation : ∃ again,
    RuleText.read? (write ((Expression.no .anything).build start.store).1) = some again ∧
      (again.build ((Expression.no .anything).build start.store).2).1 =
        ((Expression.no .anything).build start.store).1 := by
  obtain ⟨kept, run⟩ := start_sound.build_runs (.no .anything)
  have spelled : Spells "no" ['n', 'o'] := by simp [Spells]
  have operand := readsOperand_no spelled ⟨blanks_space, Or.inl (by simp)⟩
    (LeafText.readsOperand .anything)
  have read := read?_of_readsWhole (readsWhole blanks_nil
    (readsAs_disjunction (.single (readsAs_conjunction (.single operand.operand)))) blanks_nil)
  exact read_write .refl run read (.root (List.mem_append_right _ List.mem_cons_self))

end EventRouting.RuleText
