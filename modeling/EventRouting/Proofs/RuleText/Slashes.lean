import EventRouting.Proofs.Rule.Canonical
import EventRouting.Proofs.Structured.Payloads

set_option autoImplicit false

namespace EventRouting

/-- The ways to come by a regular expression. -/
inductive Regexp.Obtained (regexp : Regexp) : Prop where
  | source {pattern : List Char} {ignoreCase : Bool}
    (made : Regexp.ofSource pattern ignoreCase = .ok regexp) : Obtained regexp
  | modes {pattern : List Char} {modes : List RegexpMode}
    (made : Regexp.withModes pattern modes = .ok regexp) : Obtained regexp
  | decoded {value : Json} (decoded : Atom.ofJson? value = some (.regexp regexp)) : Obtained regexp

theorem Regexp.Obtained.made {regexp : Regexp} (obtained : regexp.Obtained) :
    ∃ pattern ignoreCase, Regexp.ofSource pattern ignoreCase = .ok regexp := by
  cases obtained with
  | source made => exact ⟨_, _, made⟩
  | @modes pattern modes made =>
    unfold Regexp.withModes at made
    split at made
    · contradiction
    · exact ⟨_, _, made⟩
  | decoded decoded => exact Atom.made_of_ofJson? decoded

/-- A pattern that asks for no refused mode and compiles is accepted. -/
theorem Regexp.exists_ofSource {pattern : List Char} {ignoreCase : Bool}
    (allowed : refusedInline false pattern = none)
    (compiles : (compile? (unescapeSlashes pattern) ignoreCase).isSome = true) :
    ∃ regexp, Regexp.ofSource pattern ignoreCase = .ok regexp := by
  obtain ⟨meaning, compiled⟩ := Option.isSome_iff_exists.1 compiles
  rw [← String.toList_ofList (l := unescapeSlashes pattern)] at compiled
  exact ⟨_, @Regexp.ofSource_eq_ok _ ⟨_, ignoreCase, meaning, compiled⟩ allowed rfl⟩

namespace RuleText

/-- Each backslash that is not escaped itself stands before a character of its line. -/
def escapesOnLine : List Char → Bool
  | '\\' :: c :: rest => c ≠ '\n' && escapesOnLine rest
  | ['\\'] => false
  | _ :: rest => escapesOnLine rest
  | [] => true

variable {source : List Char} {regexp : Regexp}

theorem escapesOnLine_plain {c : Char} (notBackslash : c ≠ '\\') (rest : List Char) :
    escapesOnLine (c :: rest) = escapesOnLine rest :=
  escapesOnLine.eq_3 _ _ (fun _ _ same => absurd same notBackslash) fun same => absurd same notBackslash

theorem sourceText_escapeSlashes (fit : escapesOnLine source = true) :
    SourceText (escapeSlashes source) := by
  induction source using escapesOnLine.induct with
  | case1 c rest ih =>
    rw [escapesOnLine, Bool.and_eq_true, decide_eq_true_eq] at fit
    rw [escapeSlashes.eq_1]
    exact .escaped fit.1 (ih fit.2)
  | case2 => contradiction
  | case3 c rest notEscape notLast ih =>
    rw [escapesOnLine.eq_3 _ _ notEscape notLast] at fit
    have notBackslash : c ≠ '\\' := by
      rintro rfl
      cases rest with
      | nil => exact notLast rfl rfl
      | cons next rest => exact notEscape next rest rfl rfl
    by_cases slash : c = '/'
    · rw [slash, escapeSlashes.eq_2]
      exact .escaped (by decide) (ih fit)
    · rw [escapeSlashes.eq_3 _ _ notEscape slash]
      exact .plain notBackslash slash (ih fit)
  | case4 => exact .nil

theorem escapesOnLine_unescapeSlashes (spelled : SourceText source) :
    escapesOnLine (unescapeSlashes source) = true := by
  induction spelled with
  | nil => rfl
  | @escaped c rest sameLine _ ih =>
    by_cases slash : c = '/'
    · rw [slash, unescapeSlashes.eq_1, escapesOnLine_plain (by decide), ih]
    · rw [unescapeSlashes.eq_2 _ _ slash, escapesOnLine, ih]
      simpa using sameLine
  | @plain c rest notBackslash notSlash _ ih =>
    rw [unescapeSlashes.eq_3 _ _ (fun _ same _ => notBackslash same) (fun _ _ same _ => notBackslash same),
      escapesOnLine_plain notBackslash, ih]

/-- Slashes that are escaped are made plain again, with those that were escaped already. -/
theorem unescapeSlashes_escapeSlashes (source : List Char) :
    unescapeSlashes (escapeSlashes source) = unescapeSlashes source := by
  induction source using escapeSlashes.induct with
  | case1 c rest ih =>
    rw [escapeSlashes.eq_1]
    by_cases slash : c = '/'
    · rw [slash, unescapeSlashes.eq_1, unescapeSlashes.eq_1, ih]
    · rw [unescapeSlashes.eq_2 _ _ slash, unescapeSlashes.eq_2 _ _ slash, ih]
  | case2 rest ih =>
    rw [escapeSlashes.eq_2, unescapeSlashes.eq_1, unescapeSlashes.eq_3 _ _ (by simp) (by simp), ih]
  | case3 c rest notEscape notSlash ih =>
    rw [escapeSlashes.eq_3 _ _ notEscape notSlash]
    by_cases last : c = '\\'
    · -- A backslash that escapes nothing is the last character.
      cases rest with
      | nil => rfl
      | cons next rest => exact (notEscape next rest last rfl).elim
    · rw [unescapeSlashes.eq_3 _ _ (fun _ same _ => last same) (fun _ _ same _ => last same),
        unescapeSlashes.eq_3 _ _ (fun _ same _ => last same) (fun _ _ same _ => last same), ih]
  | case4 => rfl

/-- The source with escaped slashes makes the same expression. -/
theorem ofSource_escapeSlashes {pattern : List Char} {ignoreCase : Bool}
    (made : Regexp.ofSource pattern ignoreCase = .ok regexp) :
    Regexp.ofSource (escapeSlashes regexp.source.toList) regexp.ignoreCase = .ok regexp := by
  obtain ⟨allowed, same, -⟩ := Regexp.source_of_ofSource made
  have plain : unescapeSlashes (escapeSlashes regexp.source.toList) = regexp.source.toList := by
    rw [unescapeSlashes_escapeSlashes, same, unescapeSlashes_again]
  apply Regexp.ofSource_eq_ok
  · rw [← refusedInline_unescapeSlashes, plain, same, refusedInline_unescapeSlashes, allowed]
  · rw [plain, String.ofList_toList]

/-- An expression can stand between slashes exactly if its source has no backslash before the end of a
line or of the source. -/
theorem scanned_regexp_iff (obtained : regexp.Obtained) :
    Scanned (.regexp regexp) ↔ escapesOnLine regexp.source.toList = true := by
  constructor
  · rintro ⟨source, ignoreCase, spelled, made⟩
    rw [(Regexp.source_of_ofSource made).2.1]
    exact escapesOnLine_unescapeSlashes spelled
  · intro fit
    obtain ⟨pattern, ignoreCase, made⟩ := obtained.made
    exact ⟨_, _, sourceText_escapeSlashes fit, ofSource_escapeSlashes made⟩

theorem scanRegexp_writeRegexp_iff (obtained : regexp.Obtained) :
    scanRegexp (writeRegexp regexp) = some (regexp, []) ↔ escapesOnLine regexp.source.toList = true := by
  rw [← scanned_regexp_iff obtained]
  constructor
  · exact scanned_of_scanRegexp
  · intro scanned
    have read := @scanRegexp_append _ _ [] (regexpText_writeRegexp scanned) (by simp)
    rwa [List.append_nil] at read

/-- A rule on any value that the expression matches, or on values under a key or any key that it does or
does not match. -/
inductive LooksFor (regexp : Regexp) : Expression → Prop where
  | fuzzy : LooksFor regexp (.fuzzy (.regexp regexp))
  | test (sense : Sense) (key : Option String) : LooksFor regexp (.test sense key (some (.regexp regexp)))

theorem LooksFor.scanned {expression : Expression} (looks : LooksFor regexp expression)
    (every : expression.normal.Every Scanned) : Scanned (.regexp regexp) := by
  cases looks with
  | fuzzy => exact every
  | test => exact every _ rfl

/-- The rule is written as one of the texts that the grammar allows for it. -/
theorem LooksFor.read?_write {rule : Rule} (looks : LooksFor regexp rule.expression)
    (scanned : Scanned (.regexp regexp)) : RuleText.read? (write rule) = some rule.expression := by
  refine (LeafText.readsOperand ?_).read?
  cases rule with
  | anything | no => cases looks
  | test id sense key atom =>
    have value : atom.map SharedAtom.atom = some (.regexp regexp) := by
      rw [Rule.expression] at looks
      generalize atom.map SharedAtom.atom = value at looks
      cases looks
      rfl
    rw [writeBefore, Rule.expression, List.append_nil]
    exact leafText_writeTest sense key (by simpa [value] using scanned)
  | fuzzy id atom =>
    have value : atom.atom = .regexp regexp := by
      rw [Rule.expression] at looks
      generalize atom.atom = value at looks
      cases looks
      rfl
    rw [writeBefore, Rule.expression, List.append_nil]
    exact leafText_writeFuzzy (value ▸ scanned)
  | junction id kind operands =>
    cases operands with
    | nil => cases looks
    | cons first rest =>
      rw [Rule.expression_junction] at looks
      cases looks

/-- A rule that was asked for on an expression is a rule on that expression. -/
theorem LooksFor.of_origin {work : Workspace} (told : work.Told) {rule : Rule} {origin : Expression}
    (held : .rule rule origin ∈ work.held) (looks : LooksFor regexp origin) :
    LooksFor regexp rule.expression := by
  have form := told rule origin held
  cases looks with
  | fuzzy =>
    obtain ⟨id, atom, rfl, value⟩ :=
      Rule.eq_fuzzy_of_form ((Form.same_fuzzy_iff _ _).1 (Form.same_symm form))
    rw [Rule.expression, value]
    exact .fuzzy
  | test sense key =>
    obtain ⟨id, atom, rfl, value⟩ :=
      Rule.eq_test_of_form ((Form.same_test_iff _ _ _ _).1 (Form.same_symm form))
    rw [Rule.expression, value]
    exact .test sense key

open Workspace in
/-- A rule in use on an expression reads back from its text exactly if the expression can be scanned. -/
theorem LooksFor.reads_back_iff {work : Workspace} (sound : work.Sound) (told : work.Told) {rule : Rule}
    (live : work.Live (.rule rule)) (looks : LooksFor regexp rule.expression) :
    (∃ again, RuleText.read? (write rule) = some again ∧ (again.build work.store).1 = rule) ↔
      Scanned (.regexp regexp) := by
  constructor
  · rintro ⟨again, read, built⟩
    have agrees := Expression.canonical_eq_iff.1 ((sound.build_eq_iff told live again).1 built)
    exact looks.scanned ((scanned_of_read? read).of_same (Form.same_symm agrees))
  · intro scanned
    exact ⟨_, looks.read?_write scanned, (sound.build_eq_iff told live _).2 rfl⟩

open Workspace in
/-- However a regular expression was come by, its source makes it again; and its text between slashes is
scanned as the whole expression, and any rule in use on it alone is written as a text that reads back as the
rule, each exactly if the source has no backslash before the end of a line or of the source. -/
theorem regexp_reads_back (obtained : regexp.Obtained) :
    Regexp.ofSource regexp.source.toList regexp.ignoreCase = .ok regexp ∧
    (scanRegexp (writeFuzzy (.regexp regexp)) = some (regexp, []) ↔
      escapesOnLine regexp.source.toList = true) ∧
    ∀ work, Run start work → ∀ rule, work.Live (.rule rule) → LooksFor regexp rule.expression →
      ((∃ again, RuleText.read? (write rule) = some again ∧ (again.build work.store).1 = rule) ↔
        escapesOnLine regexp.source.toList = true) := by
  refine ⟨?_, scanRegexp_writeRegexp_iff obtained, ?_⟩
  · obtain ⟨pattern, ignoreCase, made⟩ := obtained.made
    exact Regexp.ofSource_source made
  · intro work run rule live looks
    rw [← scanned_regexp_iff obtained]
    exact looks.reads_back_iff (run.sound start_sound) (run.told start_sound start_told) live

open Workspace in
/-- A rule for an escaped slash is held while its text is read. -/
theorem regexp_reads_back_slash : ∃ regexp, Regexp.ofSource ['\\', '/'] false = .ok regexp ∧
    scanRegexp (writeFuzzy (.regexp regexp)) = some (regexp, []) ∧
    let built := (Expression.fuzzy (.regexp regexp)).build start.store
    ∃ again, RuleText.read? (write built.1) = some again ∧ (again.build built.2).1 = built.1 := by
  obtain ⟨regexp, made⟩ := @Regexp.exists_ofSource ['\\', '/'] false rfl rfl
  have fit : escapesOnLine regexp.source.toList = true := by
    rw [(Regexp.source_of_ofSource made).2.1]
    rfl
  obtain ⟨-, scan, rules⟩ := regexp_reads_back (.source made)
  obtain ⟨kept, run⟩ := start_sound.build_runs (.fuzzy (.regexp regexp))
  have looks := LooksFor.fuzzy.of_origin (run.told start_sound start_told) List.mem_cons_self
  exact ⟨regexp, made, scan.2 fit, (rules _ run _ (live_of_held List.mem_cons_self) looks).2 fit⟩

open Workspace in
/-- A pattern with a backslash before a line feed is accepted, and the text of its rule is not read back. -/
theorem regexp_line_feed_lost : ∃ regexp, Regexp.ofSource ['\\', '\n'] false = .ok regexp ∧
    scanRegexp (writeFuzzy (.regexp regexp)) = none ∧
    let built := (Expression.fuzzy (.regexp regexp)).build start.store
    ¬∃ again, RuleText.read? (write built.1) = some again ∧ (again.build built.2).1 = built.1 := by
  obtain ⟨regexp, made⟩ := @Regexp.exists_ofSource ['\\', '\n'] false rfl rfl
  obtain ⟨-, source, noCase⟩ := Regexp.source_of_ofSource made
  obtain ⟨kept, run⟩ := start_sound.build_runs (.fuzzy (.regexp regexp))
  have told := run.told start_sound start_told
  have looks := LooksFor.fuzzy.of_origin told List.mem_cons_self
  refine ⟨regexp, made, ?_, ?_⟩
  · change scanRegexp (writeRegexp regexp) = none
    rw [writeRegexp, source, noCase]
    rfl
  · intro built readsBack
    have scanned := (looks.reads_back_iff (run.sound start_sound) told
      (live_of_held List.mem_cons_self)).1 readsBack
    have fit := (scanned_regexp_iff (.source made)).1 scanned
    rw [source] at fit
    contradiction

end RuleText

end EventRouting
