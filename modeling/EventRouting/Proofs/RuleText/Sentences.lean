import EventRouting.Proofs.RuleText.DomainTokens
import EventRouting.Proofs.RuleText.Scanned

set_option autoImplicit false

namespace EventRouting.RuleText

open Text

/-- A bare token, even one that is a word of the language, or a JSON string. -/
inductive StringToken : List Char → List Char → Prop where
  | bare {value : List Char} (some : value ≠ []) (bare : ∀ c ∈ value, isBare c = true) :
    StringToken value value
  | quoted {inner value : List Char} (quoted : Quoted inner value) :
    StringToken ('"' :: inner ++ ['"']) value

inductive KeyToken : List Char → Option String → Prop where
  | any : KeyToken ['*'] none
  | string {text value : List Char} (spelled : StringToken text value) :
    KeyToken text (some (String.ofList value))

inductive ValueToken : List Char → Option Atom → Prop where
  | any : ValueToken ['*'] none
  | regexp {text : List Char} {regexp : Regexp} (spelled : RegexpText text regexp) :
    ValueToken text (some (.regexp regexp))
  | string {text value : List Char} (spelled : StringToken text value) :
    ValueToken text (some (.string (String.ofList value)))

/-- An address, a block or a range before white space, a closing parenthesis or the end, or a domain. -/
inductive NetworkToken : List Char → Atom → List Char → Prop where
  | ip {text rest : List Char} {range : IpRange} (spelled : IpText text range)
    (boundary : atBoundary rest = true) : NetworkToken text (.ip range) rest
  | domainName {text rest : List Char} {pattern : DomainPattern} (spelled : DomainText text pattern) :
    NetworkToken text (.domainName pattern) rest

/-- What stands alone, and tests. -/
inductive Primary : Expression → List Char → List Char → Prop where
  | anything {rest : List Char} : Primary .anything ['*'] rest
  | equal {key : Option String} {atom : Option Atom} {name before sign after value rest : List Char}
    (keyed : KeyToken name key) (front : Blanks before) (signed : sign = ['='] ∨ sign = ['=', '='])
    (back : Blanks after) (valued : ValueToken value atom) :
    Primary (.test .matching key atom) (name ++ (before ++ sign ++ after ++ value)) rest
  | unequal {key : Option String} {atom : Option Atom} {name before after value rest : List Char}
    (keyed : KeyToken name key) (front : Blanks before) (back : Blanks after)
    (valued : ValueToken value atom) :
    Primary (.test .nonMatching key atom) (name ++ (before ++ ['!', '='] ++ after ++ value)) rest
  | inside {key : Option String} {atom : Atom} {name before word after network rest : List Char}
    (keyed : KeyToken name key) (front : Blanks before) (apart : before ≠ []) (spelled : Spells "in" word)
    (back : Blanks after) (separate : after ≠ []) (networked : NetworkToken network atom rest) :
    Primary (.test .matching key (some atom)) (name ++ (before ++ word ++ after ++ network)) rest
  | outside {key : Option String} {atom : Atom}
    {name before denial middle word after network rest : List Char}
    (keyed : KeyToken name key) (front : Blanks before) (apart : before ≠ [])
    (denied : Spells "not" denial) (between : Blanks middle) (distinct : middle ≠ [])
    (spelled : Spells "in" word) (back : Blanks after) (separate : after ≠ [])
    (networked : NetworkToken network atom rest) :
    Primary (.test .nonMatching key (some atom))
      (name ++ (before ++ denial ++ middle ++ word ++ after ++ network)) rest
  | regexp {text rest : List Char} {regexp : Regexp} (spelled : RegexpText text regexp) :
    Primary (.fuzzy (.regexp regexp)) text rest
  | network {text rest : List Char} {atom : Atom} (networked : NetworkToken text atom rest) :
    Primary (.fuzzy atom) text rest
  | string {text value rest : List Char} (spelled : StringToken text value)
    (notIp : scanIp (text ++ rest) = none) (notDomain : scanDomain (text ++ rest) = none) :
    Primary (.fuzzy (.string (String.ofList value))) text rest

/-- The text is derived at the level, before the rest, and gives the expression. -/
inductive Sentence : Level → Expression → List Char → List Char → Prop where
  | primary {expression : Expression} {text rest : List Char} (primary : Primary expression text rest) :
    Sentence .unary expression text rest
  | parentheses {expression : Expression} {text rest : List Char}
    (inner : Sentence .expression expression text (')' :: rest)) :
    Sentence .unary expression ('(' :: text ++ [')']) rest
  | no {operand : Expression} {word gap text rest : List Char} (spelled : Spells "no" word)
    (blank : Blanks gap) (apart : gap ≠ []) (inner : Sentence .unary operand text rest) :
    Sentence .unary (.no operand) (word ++ (gap ++ text)) rest
  | noParentheses {operand : Expression} {word gap text rest : List Char} (spelled : Spells "no" word)
    (blank : Blanks gap) (inner : Sentence .expression operand text (')' :: rest)) :
    Sentence .unary (.no operand) (word ++ (gap ++ ('(' :: text ++ [')']))) rest
  | unary {expression : Expression} {text rest : List Char} (inner : Sentence .unary expression text rest) :
    Sentence .conjunction expression text rest
  | and {left right : Expression} {first front word back second rest : List Char}
    (inLeft : Sentence .unary left first (front ++ word ++ back ++ second ++ rest))
    (before : GapAfter first front) (spelled : Spells "and" word) (after : GapBefore back second)
    (inRight : Sentence .conjunction right second rest) :
    Sentence .conjunction (.both left right) (first ++ (front ++ word ++ back ++ second)) rest
  | conjunction {expression : Expression} {text rest : List Char}
    (inner : Sentence .conjunction expression text rest) : Sentence .disjunction expression text rest
  | or {left right : Expression} {first front word back second rest : List Char}
    (inLeft : Sentence .conjunction left first (front ++ word ++ back ++ second ++ rest))
    (before : GapAfter first front) (spelled : Spells "or" word) (after : GapBefore back second)
    (inRight : Sentence .disjunction right second rest) :
    Sentence .disjunction (.either left right) (first ++ (front ++ word ++ back ++ second)) rest
  | expression {expression : Expression} {before text after rest : List Char} (front : Blanks before)
    (inner : Sentence .disjunction expression text (after ++ rest)) (back : Blanks after) :
    Sentence .expression expression (before ++ (text ++ after)) rest

theorem StringText.token {text value : List Char} (spelled : StringText text value) :
    StringToken text value := by
  cases spelled with
  | bare some bare free => exact .bare some bare
  | quoted quoted => exact .quoted quoted

theorem KeyText.token {text : List Char} {key : Option String} (keyed : KeyText text key) :
    KeyToken text key := by
  cases keyed with
  | any => exact .any
  | string spelled => exact .string spelled.token

theorem ValueText.token {text : List Char} {atom : Option Atom} (valued : ValueText text atom) :
    ValueToken text atom := by
  cases valued with
  | any => exact .any
  | regexp spelled => exact .regexp spelled
  | string spelled => exact .string spelled.token

theorem StringToken.not_nil {text value : List Char} (spelled : StringToken text value) : text ≠ [] := by
  cases spelled with
  | bare some => exact some
  | quoted => simp

theorem KeyToken.not_nil {text : List Char} {key : Option String} (keyed : KeyToken text key) :
    text ≠ [] := by
  cases keyed with
  | any => simp
  | string spelled => exact spelled.not_nil

theorem NetworkToken.not_nil {text rest : List Char} {atom : Atom}
    (networked : NetworkToken text atom rest) : text ≠ [] := by
  cases networked with
  | ip spelled =>
    cases spelled with
    | address read => exact (bare_of_read? read).1
    | block => simp
    | ends => simp
  | domainName spelled =>
    obtain ⟨count, some, -, -⟩ := spelled
    simp [some]

theorem Primary.not_nil {expression : Expression} {text rest : List Char}
    (primary : Primary expression text rest) : text ≠ [] := by
  cases primary with
  | anything => simp
  | equal keyed => simp [keyed.not_nil]
  | unequal keyed => simp [keyed.not_nil]
  | inside keyed => simp [keyed.not_nil]
  | outside keyed => simp [keyed.not_nil]
  | regexp spelled =>
    obtain ⟨⟩ := spelled
    simp
  | network networked => exact networked.not_nil
  | string spelled => exact spelled.not_nil

theorem Sentence.not_nil {level : Level} {expression : Expression} {text rest : List Char}
    (sentence : Sentence level expression text rest) : text ≠ [] := by
  induction sentence with
  | primary primary => exact primary.not_nil
  | parentheses | noParentheses => simp
  | no _ _ apart => simp [apart]
  | unary _ ih | conjunction _ ih => exact ih
  | and _ _ _ _ _ ih | or _ _ _ _ _ ih => simp [ih]
  | expression _ _ _ ih => simp [ih]

/-- What was read up to the closing quote is spelled by the text before it. -/
theorem quoted_of_readString {done text value rest : List Char}
    (read : Json.readString done text = some (value, rest)) :
    ∃ inner meant, Quoted inner meant ∧ value = done.reverse ++ meant ∧
      text = inner ++ '"' :: rest := by
  fun_induction Json.readString done text with
  | case2 done text =>
    obtain ⟨rfl, rfl⟩ := Prod.mk.inj (Option.some.inj read)
    exact ⟨[], [], .nil, by simp, rfl⟩
  | case5 done a b c d high digits isHigh e f g h text low lower isLow ih =>
    obtain ⟨inner, meant, quoted, rfl, rfl⟩ := ih read
    exact ⟨_, _, .pair digits lower isHigh isLow quoted, by simp, rfl⟩
  | case9 done a b c d text unit digits notHigh notLow ih =>
    obtain ⟨inner, meant, quoted, rfl, rfl⟩ := ih read
    exact ⟨_, _, .unit digits (by simpa using notHigh) (by simpa using notLow) quoted, by simp, rfl⟩
  | case10 done c text _ meant escapes ih =>
    obtain ⟨inner, meant, quoted, rfl, rfl⟩ := ih read
    exact ⟨_, _, .escape escapes quoted, by simp, rfl⟩
  | case13 done c text notQuote _ _ plain ih =>
    obtain ⟨inner, meant, quoted, rfl, rfl⟩ := ih read
    rw [Bool.or_eq_true, decide_eq_true_eq, beq_iff_eq, not_or, Nat.not_lt] at plain
    exact ⟨_, _, .plain plain.1 notQuote plain.2 quoted, by simp, rfl⟩
  | _ => contradiction

theorem bare_of_scanBare {text value rest : List Char} (scanned : scanBare text = some (value, rest)) :
    value ≠ [] ∧ (∀ c ∈ value, isBare c = true) ∧ text = value ++ rest := by
  unfold scanBare at scanned
  split at scanned
  · contradiction
  · rename_i token some
    obtain ⟨rfl, rfl⟩ := Prod.mk.inj (Option.some.inj scanned)
    exact ⟨some, fun c inside => List.mem_takeWhile_imp inside, List.takeWhile_append_dropWhile.symm⟩

theorem stringToken_of_scanString {text value rest : List Char}
    (scanned : scanString text = some (value, rest)) :
    ∃ token, StringToken token value ∧ text = token ++ rest := by
  unfold scanString at scanned
  split at scanned
  · obtain ⟨inner, meant, quoted, rfl, rfl⟩ := quoted_of_readString scanned
    exact ⟨_, .quoted quoted, by simp⟩
  · obtain ⟨some, bare, rfl⟩ := bare_of_scanBare scanned
    exact ⟨value, .bare some bare, rfl⟩

theorem scanString_append {text value rest : List Char} (spelled : StringToken text value)
    (ends : EndsBare rest) : scanString (text ++ rest) = some (value, rest) := by
  cases spelled with
  | bare some bare => exact scanString_bare some bare ends
  | quoted quoted =>
    simp only [List.cons_append, List.append_assoc]
    rw [scanString.eq_1]
    exact readString_append quoted [] rest

theorem scanSource_eq_append {text source rest : List Char}
    (scanned : scanSource text = some (source, rest)) :
    text = source ++ '/' :: rest := by
  fun_induction scanSource text generalizing source with
  | case1 text =>
    obtain ⟨rfl, rfl⟩ := Prod.mk.inj (Option.some.inj scanned)
    rfl
  | case3 c text _ ih | case5 c text _ _ _ ih =>
    rw [Option.map_eq_some_iff] at scanned
    obtain ⟨found, scanned, same⟩ := scanned
    obtain ⟨rfl, rfl⟩ := Prod.mk.inj same
    rw [ih scanned]
    rfl
  | _ => contradiction

theorem regexpText_of_scanRegexp {text rest : List Char} {regexp : Regexp}
    (scanned : scanRegexp text = some (regexp, rest)) :
    ∃ token, RegexpText token regexp ∧ text = token ++ rest := by
  unfold scanRegexp at scanned
  split at scanned
  · rename_i text
    simp only [Option.bind_eq_bind, Option.bind_eq_some_iff] at scanned
    obtain ⟨⟨source, left⟩, scannedSource, found, valid, same⟩ := scanned
    have spelled := sourceText_of_scanSource scannedSource
    rw [scanSource_eq_append scannedSource]
    obtain ⟨rfl, behind⟩ := Prod.mk.inj (Option.some.inj same)
    refine ⟨_, .regexp spelled (ok_of_toOption valid), ?_⟩
    rw [← behind]
    split
    · rename_i more flagged
      simpa using flagged
    · simp
  · contradiction

theorem scanDigits_eq_some {most : Nat} {text digits rest : List Char}
    (scanned : scanDigits most text = some (digits, rest)) :
    digits ≠ [] ∧ digits.length ≤ most ∧ ∀ c ∈ digits, c.isDigit = true := by
  unfold scanDigits at scanned
  split at scanned
  · contradiction
  · rename_i some
    obtain ⟨rfl, -⟩ := Prod.mk.inj (Option.some.inj scanned)
    exact ⟨some, List.length_take_le _ _,
      fun c inside => List.mem_takeWhile_imp (List.mem_of_mem_take inside)⟩

theorem eq_blanks_append (text : List Char) :
    ∃ blanks, Blanks blanks ∧ text = blanks ++ dropBlanks text :=
  ⟨text.takeWhile isBlank, fun _ inside => List.mem_takeWhile_imp inside,
    List.takeWhile_append_dropWhile.symm⟩

/-- How a suffix is spelled: white space around the slash or the hyphen, and what follows it. -/
theorem spelled_of_scanSuffix {text rest : List Char} {suffix : AddressSuffix}
    (scanned : scanSuffix text = some (suffix, rest)) :
    ∃ before after, Blanks before ∧ Blanks after ∧
      ((∃ digits, suffix = .bits digits ∧ digits ≠ [] ∧ digits.length ≤ 5 ∧
        (∀ c ∈ digits, c.isDigit = true) ∧ text = before ++ '/' :: after ++ digits ++ rest) ∨
        ∃ last, suffix = .last last ∧ text = before ++ '-' :: after ++ last ++ rest) := by
  obtain ⟨before, front, shape⟩ := eq_blanks_append text
  unfold scanSuffix at scanned
  split at scanned
  · rename_i more opened
    rw [Option.map_eq_some_iff] at scanned
    obtain ⟨⟨digits, left⟩, scannedDigits, same⟩ := scanned
    obtain ⟨rfl, rfl⟩ := Prod.mk.inj same
    obtain ⟨after, back, backShape⟩ := eq_blanks_append more
    obtain ⟨some, short, decimal⟩ := scanDigits_eq_some scannedDigits
    refine ⟨before, after, front, back, Or.inl ⟨digits, rfl, some, short, decimal, ?_⟩⟩
    rw [shape, opened, backShape, scanDigits_eq_append scannedDigits]
    simp
  · rename_i more opened
    rw [Option.map_eq_some_iff] at scanned
    obtain ⟨⟨last, left⟩, scannedLast, same⟩ := scanned
    obtain ⟨rfl, rfl⟩ := Prod.mk.inj same
    obtain ⟨after, back, backShape⟩ := eq_blanks_append more
    refine ⟨before, after, front, back, Or.inr ⟨last, rfl, ?_⟩⟩
    rw [shape, opened, backShape, scanAddress_eq_append scannedLast]
    simp
  · contradiction

theorem ipText_of_scanIp {text rest : List Char} {range : IpRange}
    (scanned : scanIp text = some (range, rest)) :
    ∃ token, IpText token range ∧ atBoundary rest = true ∧ text = token ++ rest := by
  simp only [scanIp, Option.bind_eq_bind, Option.bind_eq_some_iff] at scanned
  obtain ⟨⟨first, left⟩, scannedFirst, address, read, found, valid, boundary⟩ := scanned
  rw [scanAddress_eq_append scannedFirst]
  cases suffixed : scanSuffix left with
  | none =>
    rw [suffixed] at valid boundary
    rw [Option.ite_none_right_eq_some] at boundary
    obtain ⟨rfl, rfl⟩ := Prod.mk.inj (Option.some.inj boundary.2)
    obtain rfl := Option.some.inj valid
    exact ⟨first, .address read, boundary.1, rfl⟩
  | some suffix =>
    obtain ⟨suffix, behind⟩ := suffix
    rw [suffixed] at valid boundary
    rw [Option.ite_none_right_eq_some] at boundary
    obtain ⟨rfl, rfl⟩ := Prod.mk.inj (Option.some.inj boundary.2)
    obtain ⟨before, after, front, back, shapes⟩ := spelled_of_scanSuffix suffixed
    rcases shapes with ⟨digits, rfl, some, short, decimal, shape⟩ | ⟨last, rfl, shape⟩
    · refine ⟨_, .block read front back some short decimal (ok_of_toOption valid), boundary.1, ?_⟩
      rw [shape]
      simp
    · simp only [suffixedRange, Option.bind_eq_bind, Option.bind_eq_some_iff] at valid
      obtain ⟨other, readOther, valid⟩ := valid
      refine ⟨_, .ends read front back readOther (ok_of_toOption valid), boundary.1, ?_⟩
      rw [shape]
      simp

theorem spanWildcards_eq (text : List Char) : ∃ count,
    (spanWildcards text).1 = DomainPattern.wildcardText count ∧
      text = DomainPattern.wildcardText count ++ (spanWildcards text).2 := by
  fun_induction spanWildcards text with
  | case1 rest ih =>
    obtain ⟨count, front, shape⟩ := ih
    refine ⟨count + 1, ?_, ?_⟩
    · rw [DomainPattern.wildcardText_succ, front]
    · rw [DomainPattern.wildcardText_succ, List.cons_append, List.cons_append, ← shape]
  | case2 rest => exact ⟨0, rfl, rfl⟩

theorem domainText_of_scanDomain {text rest : List Char} {pattern : DomainPattern}
    (scanned : scanDomain text = some (pattern, rest)) :
    ∃ token, DomainText token pattern ∧ text = token ++ rest := by
  simp only [scanDomain, Option.bind_eq_bind, Option.bind_eq_some_iff] at scanned
  obtain ⟨⟨token, left⟩, scannedToken, found, valid, same⟩ := scanned
  obtain ⟨rfl, rfl⟩ := Prod.mk.inj (Option.some.inj same)
  obtain ⟨count, front, shape⟩ := spanWildcards_eq text
  obtain ⟨some, bare, behind⟩ := bare_of_scanBare scannedToken
  rw [front] at valid
  refine ⟨_, .domain count some bare (ok_of_toOption valid), ?_⟩
  rw [List.append_assoc, ← behind]
  exact shape

end EventRouting.RuleText
