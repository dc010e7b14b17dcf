import EventRouting.Proofs.Grammar.Values
import EventRouting.Proofs.Rule.NormalForm
import EventRouting.Proofs.RuleText.Spelling

set_option autoImplicit false

namespace EventRouting

/-- All atoms of a form have a property. -/
def Form.Every (property : Atom → Prop) : Form → Prop
  | anything => True
  | test _ _ atom => ∀ value ∈ atom, property value
  | fuzzy atom => property atom
  | no operand => operand.Every property
  | junction _ operands => all property operands
where
  all (property : Atom → Prop) : List Form → Prop
    | [] => True
    | operand :: rest => operand.Every property ∧ all property rest

/-- The atom is one of the form. -/
def Form.Mentions (form : Form) (atom : Atom) : Prop := ¬form.Every (· ≠ atom)

namespace Form

variable {property : Atom → Prop}

theorem every_junction (kind : Junction) (operands : List Form) :
    (junction kind operands).Every property ↔ ∀ operand ∈ operands, operand.Every property := by
  rw [Every]
  induction operands with
  | nil => simp [Every.all]
  | cons operand rest ih => rw [Every.all, ih, List.forall_mem_cons]

/-- The atoms of a form are those of every form that is the same. -/
theorem Every.of_same {left right : Form} (every : right.Every property)
    (same : left.same right = true) : left.Every property := by
  induction left using Form.induct generalizing right with
  | anything => exact trivial
  | test sense key atom =>
    rwa [(same_test_iff _ _ _ _).1 same] at every
  | fuzzy atom =>
    rwa [(same_fuzzy_iff _ _).1 same] at every
  | no operand ih =>
    obtain ⟨other, rfl, near⟩ := (same_no_iff _ _).1 same
    exact ih (show other.Every property from every) near
  | junction kind operands ih =>
    obtain ⟨others, rfl, alike⟩ := (same_junction_iff _ _ _).1 same
    rw [every_junction] at every ⊢
    intro operand inside
    obtain ⟨other, member, near⟩ := alike.1 operand inside
    exact ih operand inside (every other member) near

theorem Every.mono {weaker : Atom → Prop} (weaken : ∀ atom, property atom → weaker atom) {form : Form}
    (every : form.Every property) : form.Every weaker := by
  induction form using Form.induct with
  | anything => trivial
  | test sense key atom => exact fun value inside => weaken value (every value inside)
  | fuzzy atom => exact weaken atom every
  | no operand ih => exact ih every
  | junction kind operands ih =>
    rw [every_junction] at every ⊢
    exact fun operand inside => ih operand inside (every operand inside)

theorem Mentions.holds {form : Form} {atom : Atom} (mentioned : form.Mentions atom)
    (every : form.Every property) :
    property atom := by
  refine Classical.byContradiction fun missing => mentioned (every.mono fun other known => ?_)
  rintro rfl
  exact missing known

theorem Every.contribution {form : Form} (every : form.Every property) (kind : Junction) :
    ∀ operand ∈ form.contribution kind, operand.Every property := by
  unfold Form.contribution
  split
  · split
    · exact (every_junction _ _).1 every
    · simpa using every
  · simpa using every

theorem every_collapse (kind : Junction) {operands : List Form}
    (every : ∀ operand ∈ operands, operand.Every property) :
    (collapse kind operands).Every property := by
  unfold collapse
  split
  · trivial
  · split
    · exact every _ List.mem_cons_self
    · exact (every_junction _ _).2 every

end Form

namespace RuleText

open Text Grammar

/-- A regular expression can stand between slashes, and a domain pattern was read. -/
def Scanned : Atom → Prop
  | .string _ | .ip _ => True
  | .regexp regexp =>
    ∃ source ignoreCase, SourceText source ∧ Regexp.ofSource source ignoreCase = .ok regexp
  | .domainName pattern => ∃ text, DomainPattern.read text = .ok pattern

theorem sourceText_of_scanSource {text source rest : List Char}
    (scanned : scanSource text = some (source, rest)) : SourceText source := by
  induction text using scanSource.induct generalizing source with
  | case1 rest =>
    rw [scanSource.eq_1] at scanned
    obtain ⟨rfl, -⟩ := Prod.mk.inj (Option.some.inj scanned)
    exact .nil
  | case2 rest =>
    rw [scanSource.eq_2, if_pos rfl] at scanned
    contradiction
  | case3 c rest sameLine ih =>
    rw [scanSource.eq_2, if_neg sameLine, Option.map_eq_some_iff] at scanned
    obtain ⟨found, scanned, same⟩ := scanned
    obtain ⟨rfl, rfl⟩ := Prod.mk.inj same
    exact .escaped sameLine (ih scanned)
  | case4 =>
    rw [scanSource.eq_3] at scanned
    contradiction
  | case5 c rest notSlash notEscape notLast ih =>
    have notBackslash : c ≠ '\\' := by
      rintro rfl
      cases rest with
      | nil => exact notLast rfl rfl
      | cons d more => exact notEscape d more rfl rfl
    rw [scanSource.eq_4 _ _ notSlash notEscape notLast, Option.map_eq_some_iff] at scanned
    obtain ⟨found, scanned, same⟩ := scanned
    obtain ⟨rfl, rfl⟩ := Prod.mk.inj same
    exact .plain notBackslash notSlash (ih scanned)
  | case6 =>
    rw [scanSource.eq_5] at scanned
    contradiction

theorem ok_of_toOption {Value Failure : Type} {result : Except Failure Value} {value : Value}
    (same : result.toOption = some value) : result = .ok value := by
  cases result with
  | error failure => contradiction
  | ok found => exact congrArg Except.ok (Option.some.inj same)

theorem scanned_of_scanRegexp {text rest : List Char} {regexp : Regexp}
    (scanned : scanRegexp text = some (regexp, rest)) : Scanned (.regexp regexp) := by
  unfold scanRegexp at scanned
  split at scanned
  · rename_i text
    simp only [Option.bind_eq_bind, Option.bind_eq_some_iff] at scanned
    obtain ⟨⟨source, left⟩, scannedSource, found, valid, same⟩ := scanned
    obtain ⟨rfl, -⟩ := Prod.mk.inj (Option.some.inj same)
    exact ⟨source, _, sourceText_of_scanSource scannedSource, ok_of_toOption valid⟩
  · contradiction

theorem scanned_of_scanDomain {text rest : List Char} {pattern : DomainPattern}
    (scanned : scanDomain text = some (pattern, rest)) : Scanned (.domainName pattern) := by
  simp only [scanDomain, Option.bind_eq_bind, Option.bind_eq_some_iff] at scanned
  obtain ⟨⟨token, left⟩, -, found, valid, same⟩ := scanned
  obtain ⟨rfl, -⟩ := Prod.mk.inj (Option.some.inj same)
  exact ⟨_, ok_of_toOption valid⟩

/-- What parts of a rule text stand for holds only what can be scanned. -/
def ScannedPhrase : Phrase → Prop
  | .nothing | .key _ => True
  | .operand atom => ∀ value ∈ atom, Scanned value
  | .rule expression => expression.normal.Every Scanned

theorem gives_token {Value : Type} {read : List Char → Option (Value × List Char)}
    {phrase : Value → Phrase}
    (known : ∀ text value rest, read text = some (value, rest) → ScannedPhrase (phrase value)) :
    Gives ScannedPhrase (token read phrase) := by
  apply Gives.scan
  intro cursor value count same
  rw [Option.map_eq_some_iff] at same
  obtain ⟨⟨found, rest⟩, scanned, pair⟩ := same
  obtain ⟨rfl, -⟩ := Prod.mk.inj pair
  exact known _ _ _ scanned

theorem gives_mark (sign : String) {phrase : Phrase} (known : ScannedPhrase phrase) :
    Gives ScannedPhrase (mark sign phrase) := by
  apply Gives.scan
  intro cursor value count same
  split at same
  · obtain ⟨rfl, -⟩ := Prod.mk.inj (Option.some.inj same)
    exact known
  · contradiction

theorem gives_keyword (word : String) : Gives ScannedPhrase (keyword word) := by
  apply Gives.scan
  intro cursor value count same
  rw [Option.map_eq_some_iff] at same
  obtain ⟨written, -, pair⟩ := same
  obtain ⟨rfl, -⟩ := Prod.mk.inj pair
  trivial

theorem gives_blanks : Gives ScannedPhrase blanks := by
  apply Gives.scan
  intro cursor value count same
  split at same
  · contradiction
  · obtain ⟨rfl, -⟩ := Prod.mk.inj (Option.some.inj same)
    trivial

theorem gives_someBlanks : Gives ScannedPhrase someBlanks :=
  gives_blanks.maybe (fun _ known => known) trivial

theorem gives_gap : Gives ScannedPhrase gap := by
  apply Gives.scan
  intro cursor value count same
  simp only at same
  split at same
  · obtain ⟨rfl, -⟩ := Prod.mk.inj (Option.some.inj same)
    trivial
  · contradiction

theorem gives_network : Gives ScannedPhrase network := by
  refine .union_cons ?_ ?_
  · refine gives_token ?_
    rintro text range rest - _ ⟨⟩
    trivial
  · refine .union_cons ?_ .union_nil
    refine gives_token ?_
    rintro text pattern rest scanned _ ⟨⟩
    exact scanned_of_scanDomain scanned

theorem gives_value : Gives ScannedPhrase value := by
  refine .union_cons (gives_mark _ (by rintro _ ⟨⟩)) ?_
  refine .union_cons ?_ ?_
  · refine gives_token ?_
    rintro text regexp rest scanned _ ⟨⟩
    exact scanned_of_scanRegexp scanned
  · refine .union_cons ?_ .union_nil
    refine gives_token ?_
    rintro text value rest - _ ⟨⟩
    trivial

theorem scanned_default : ScannedPhrase default := by
  change ScannedPhrase .nothing
  trivial

theorem gives_andThen {first second : RuleGrammar} (front : Gives ScannedPhrase first)
    (back : Gives ScannedPhrase second) : Gives ScannedPhrase (first.andThen second) :=
  front.andThen back scanned_default

theorem gives_matchTail : Gives ScannedPhrase matchTail := by
  have sign := @gives_mark "=" .nothing trivial
  have other : Gives ScannedPhrase ((mark "=" .nothing).maybe id .nothing) :=
    sign.maybe (fun _ known => known) trivial
  refine .union_cons ?_ ?_
  · refine gives_andThen ?_ gives_value
    refine gives_andThen ?_ gives_someBlanks
    exact gives_andThen (gives_andThen gives_someBlanks sign) other
  · refine .union_cons ?_ .union_nil
    refine gives_andThen ?_ gives_network
    refine gives_andThen ?_ gives_blanks
    exact gives_andThen gives_blanks (gives_keyword _)

theorem gives_nonMatchTail : Gives ScannedPhrase nonMatchTail := by
  refine .union_cons ?_ ?_
  · refine gives_andThen ?_ gives_value
    refine gives_andThen ?_ gives_someBlanks
    exact gives_andThen gives_someBlanks (gives_mark _ trivial)
  · refine .union_cons ?_ .union_nil
    refine gives_andThen ?_ gives_network
    refine gives_andThen ?_ gives_blanks
    refine gives_andThen ?_ (gives_keyword _)
    refine gives_andThen ?_ gives_blanks
    exact gives_andThen gives_blanks (gives_keyword _)

theorem scanned_testOf (sense : Sense) (left right : Phrase) (known : ScannedPhrase right) :
    ScannedPhrase (testOf sense left right) := by
  unfold testOf
  split
  · exact known
  · trivial

theorem scanned_fuzzyOf (phrase : Phrase) (known : ScannedPhrase phrase) :
    ScannedPhrase (fuzzyOf phrase) := by
  unfold fuzzyOf
  split
  · exact known _ rfl
  · trivial

theorem scanned_noOf (phrase : Phrase) (known : ScannedPhrase phrase) : ScannedPhrase (noOf phrase) := by
  unfold noOf
  split
  · exact known
  · trivial

theorem scanned_junctionOf (kind : Junction) (left right : Phrase) (first : ScannedPhrase left)
    (second : ScannedPhrase right) : ScannedPhrase (junctionOf kind left right) := by
  unfold junctionOf
  split
  · rename_i one other
    change (Expression.junction kind one [other]).normal.Every Scanned
    rw [Expression.normal_junction]
    apply Form.every_collapse kind
    intro form inside
    simp only [List.map_cons, List.map_nil, List.flatMap_cons, List.flatMap_nil, List.append_nil,
      List.mem_append] at inside
    rcases inside with inside | inside
    · exact Form.Every.contribution first kind form inside
    · exact Form.Every.contribution second kind form inside
  · trivial

theorem gives_basic : Gives ScannedPhrase basic := by
  refine .union_cons (gives_token fun text regexp rest scanned => scanned_of_scanRegexp scanned) ?_
  refine .union_cons ?_ ?_
  · refine .step ?_ ?_ ?_
    · refine .union_cons (gives_mark _ trivial) ?_
      exact .union_cons (gives_token fun _ _ _ _ => trivial) .union_nil
    · rw [List.forall_mem_cons, List.forall_mem_singleton]
      exact ⟨gives_matchTail, gives_nonMatchTail⟩
    · rw [List.forall_mem_cons, List.forall_mem_singleton]
      exact ⟨fun left right _ => scanned_testOf .matching left right,
        fun left right _ => scanned_testOf .nonMatching left right⟩
  · refine .union_cons (gives_network.map scanned_fuzzyOf) ?_
    refine .union_cons ?_ (.union_cons (gives_mark _ trivial) .union_nil)
    refine (gives_token fun text value rest _ => ?_).map scanned_fuzzyOf
    rintro _ ⟨⟩
    trivial

theorem gives_parentheses : Gives ScannedPhrase parentheses := by
  refine .sequence ?_ ?_
  · rw [List.forall_mem_cons, List.forall_mem_cons, List.forall_mem_singleton]
    exact ⟨gives_mark _ trivial, .forward, gives_mark _ trivial⟩
  · intro values known
    split
    · exact known _ (by simp)
    · trivial

theorem gives_negation : Gives ScannedPhrase negation := by
  refine (gives_andThen (gives_keyword _) ?_).map scanned_noOf
  refine .union_cons (gives_andThen gives_someBlanks gives_parentheses) ?_
  exact .union_cons (gives_andThen gives_blanks .forward) .union_nil

theorem gives_chain (operand same : Level) (word : String) (kind : Junction) :
    Gives ScannedPhrase (chain operand same word kind) := by
  have link : Gives ScannedPhrase (((gap.andThen (keyword word)).andThen gap).andThen (.forward same)) :=
    gives_andThen (gives_andThen (gives_andThen gives_gap (gives_keyword _)) gives_gap) .forward
  refine .step .forward ?_ ?_
  · rw [List.forall_mem_cons, List.forall_mem_singleton]
    exact ⟨link, .epsilon trivial⟩
  · rw [List.forall_mem_cons, List.forall_mem_singleton]
    exact ⟨scanned_junctionOf kind, fun left _ known _ => known⟩

theorem gives_definitions (level : Level) (grammar : RuleGrammar)
    (found : definitions.find? level = some grammar) : Gives ScannedPhrase grammar := by
  cases level with
  | unary =>
    obtain rfl := Option.some.inj found
    exact .union_cons gives_negation (.union_cons gives_parentheses (.union_cons gives_basic .union_nil))
  | conjunction =>
    obtain rfl := Option.some.inj found
    exact gives_chain _ _ _ _
  | disjunction =>
    obtain rfl := Option.some.inj found
    exact gives_chain _ _ _ _
  | expression =>
    obtain rfl := Option.some.inj found
    exact (gives_andThen gives_someBlanks .forward).andSkip gives_someBlanks scanned_default

/-- What is read has only atoms that can be scanned. -/
theorem scanned_of_read? {text : String} {expression : Expression} (read : read? text = some expression) :
    expression.normal.Every Scanned := by
  unfold read? at read
  split at read
  · rename_i found parsed
    obtain rfl := Option.some.inj read
    have known : ScannedPhrase (.rule found) := property_of_parse gives_definitions .forward parsed
    exact known
  · contradiction

end RuleText

end EventRouting
