import EventRouting.Proofs.Regex.Walks
import EventRouting.Proofs.RuleText.Slashes
import EventRouting.Proofs.Structured.RoundTrip

set_option autoImplicit false

namespace EventRouting

open Regex

/-- Neither multi-line nor verbose mode is turned on. -/
def Regex.Harmless (changes : FlagChanges) : Prop :=
  (.multiLine, true) ∉ changes ∧ (.verbose, true) ∉ changes

variable {before changes : FlagChanges} {turnedOff dangling inClass : Bool} {c closing : Char}
  {text next rest : List Char}

/-- The letters add to the flags before them, and none behind a hyphen turns its flag on. -/
theorem flagLetters_extends (read : flagLetters before turnedOff dangling text =
      some (changes, closing, next)) :
    ∃ more, changes = before.reverse ++ more ∧
      (turnedOff = true → ∀ change ∈ more, change.2 = false) := by
  fun_induction flagLetters before turnedOff dangling text with
  | case3 before turnedOff dangling c rest ends =>
    obtain ⟨rfl, -, -⟩ := by simpa using read
    exact ⟨[], (List.append_nil _).symm, by simp⟩
  | case5 before turnedOff dangling rest on _ ih =>
    obtain ⟨more, same, -⟩ := ih read
    exact ⟨more, same, fun off => absurd off on⟩
  | case6 before turnedOff dangling c rest _ _ ih =>
    rw [Option.bind_eq_bind, Option.bind_eq_some_iff] at read
    obtain ⟨flag, named, read⟩ := read
    split at read
    · contradiction
    · obtain ⟨more, rfl, off⟩ := ih flag read
      refine ⟨(flag, !turnedOff) :: more, by simp, fun same => ?_⟩
      exact List.forall_mem_cons.2 ⟨by simp [same], off same⟩
  | _ => contradiction

/-- A refused letter stands in the group exactly if the group turns on a refused mode. -/
theorem refusedLetter_eq_none_iff (harmless : Harmless before)
    (read : flagLetters before false dangling text = some (changes, closing, next)) :
    refusedLetter text = none ↔ Harmless changes := by
  induction text generalizing before dangling with
  | nil => contradiction
  | cons c rest ih =>
    rw [flagLetters] at read
    split at read
    · next ends =>
      split at read
      · contradiction
      · obtain ⟨rfl, -, -⟩ := by simpa using read
        have none : refusedLetter (c :: rest) = none := by
          rcases (by simpa using ends : c = ':' ∨ c = ')') with rfl | rfl <;> rfl
        simpa [none, Harmless] using harmless
    split at read
    · next hyphen =>
      subst hyphen
      obtain ⟨more, rfl, off⟩ := flagLetters_extends (by simpa using read)
      have never (flag : Flag) : (flag, true) ∉ more := fun inside => Bool.noConfusion (off rfl _ inside)
      have none : refusedLetter ('-' :: rest) = none := rfl
      simpa [none, Harmless, never] using harmless
    · rw [Option.bind_eq_bind, Option.bind_eq_some_iff] at read
      obtain ⟨flag, named, read⟩ := read
      split at read
      · contradiction
      have kept : (flag, true) ∈ changes := by
        obtain ⟨more, rfl, -⟩ := flagLetters_extends read
        simp
      have passes (other : flag ≠ .multiLine ∧ flag ≠ .verbose) : refusedLetter rest = none ↔
          Harmless changes := by
        refine ih ⟨?_, ?_⟩ read
        · simpa [other.1.symm] using harmless.1
        · simpa [other.2.symm] using harmless.2
      unfold flagNamed at named
      split at named <;> first | contradiction | obtain rfl := Option.some.inj named
      · exact passes (by decide)
      · exact iff_of_false (by simp [refusedLetter]) fun fine => fine.1 kept
      · exact passes (by decide)
      · exact passes (by decide)
      · exact passes (by decide)
      · exact passes (by decide)
      · exact iff_of_false (by simp [refusedLetter]) fun fine => fine.2 kept

/-- The bit after a character that no backslash precedes. -/
def bitAfter (inClass : Bool) (c : Char) : Bool :=
  if c = '[' then true else if c = ']' then false else inClass

theorem of_bitAfter_eq_false (noClosing : c ≠ ']') (clear : bitAfter inClass c = false) :
    inClass = false := by
  unfold bitAfter at clear
  rw [if_neg noClosing] at clear
  split at clear
  · contradiction
  · exact clear

theorem refusedInline_of_ne (noEscape : c ≠ '\\') (notOpening : c ≠ '(') :
    refusedInline inClass (c :: text) = refusedInline (bitAfter inClass c) text := by
  unfold bitAfter
  split
  · next opens => rw [opens, refusedInline.eq_3]
  split
  · next closes => rw [closes, refusedInline.eq_4]
  · next notOpen notClose => exact refusedInline_skip (by simp [*]) inClass text

theorem refusedInline_plain (plain : text.head? ≠ some '?') :
    refusedInline inClass ('(' :: text) = refusedInline inClass text := by
  refine refusedInline.eq_6 _ _ _ (by simp) (by simp) (by simp) fun rest _ shape => plain ?_
  rw [shape, List.head?_cons]

theorem refusedInline_inClass : refusedInline true ('(' :: text) = refusedInline true text := by
  by_cases group : text.head? = some '?'
  · obtain ⟨rest, rfl⟩ := List.head?_eq_some_iff.1 group
    rw [refusedInline.eq_5, if_pos rfl, refusedInline_skip (by decide)]
  · exact refusedInline_plain group

theorem refusedInline_group (letters : refusedLetter text = none) :
    refusedInline inClass ('(' :: '?' :: text) = refusedInline inClass text := by
  cases inClass with
  | false => rw [refusedInline.eq_5, if_neg (by decide), letters]
  | true => rw [refusedInline.eq_5, if_pos rfl]

/-- A group that is not taken for part of a class is allowed only without refused letters. -/
theorem refusedLetter_of_allowed (allowed : refusedInline false ('(' :: '?' :: text) = none) :
    refusedLetter text = none := by
  rw [refusedInline.eq_5, if_neg (by decide)] at allowed
  split at allowed
  · contradiction
  · next none => exact none

/-- Nothing is refused in the text, whatever the bit is at its start. -/
def Allowed (text : List Char) : Prop := ∀ inClass, refusedInline inClass text = none

theorem refusedInline_cons (noEscape : c ≠ '\\') (allowed : refusedInline inClass (c :: text) = none) :
    refusedInline (bitAfter inClass c) text = none := by
  by_cases opening : c = '('
  · subst opening
    change refusedInline inClass text = none
    by_cases group : text.head? = some '?'
    · obtain ⟨rest, rfl⟩ := List.head?_eq_some_iff.1 group
      rw [refusedInline_skip (by decide)]
      cases inClass with
      | false => rwa [refusedInline_group (refusedLetter_of_allowed allowed)] at allowed
      | true => rwa [refusedInline.eq_5, if_pos rfl] at allowed
    · rwa [refusedInline_plain group] at allowed
  · rwa [refusedInline_of_ne noEscape opening] at allowed

namespace Regex.Passage

theorem refusedInline_rest {kind : Char → Prop} (passage : Passage kind text rest)
    (allowed : refusedInline inClass text = none) : ∃ inClass, refusedInline inClass rest = none := by
  induction passage generalizing inClass with
  | done => exact ⟨inClass, allowed⟩
  | char noEscape known more ih => exact ih (refusedInline_cons noEscape allowed)
  | escape more ih => exact ih (by rwa [refusedInline.eq_2] at allowed)

/-- Outside classes the bit stays clear. -/
theorem refusedInline_clear (passage : Passage (fun c => c ≠ '[' ∧ c ≠ '(') text rest) :
    refusedInline false text = refusedInline false rest := by
  induction passage with
  | done => rfl
  | @char c text rest noEscape known more ih =>
    have clear : bitAfter false c = false := by simp [bitAfter, known.1]
    rw [refusedInline_of_ne noEscape known.2, clear, ih]
  | escape more ih => rw [refusedInline.eq_2, ih]

/-- Characters that matter nowhere leave the bit. -/
theorem refusedInline_mute (passage : Passage IsMute text rest) :
    refusedInline inClass text = refusedInline inClass rest := by
  induction passage with
  | done => rfl
  | @char c text rest noEscape known more ih =>
    obtain ⟨-, noBracket, noClosing, noOpening⟩ := isMute_iff.1 known
    rw [← ih]
    exact refusedInline_skip (by simp [noEscape, noBracket, noClosing, noOpening]) inClass text
  | escape more ih => rw [refusedInline.eq_2, ih]

theorem allowed_of_rest (passage : Passage (· ≠ '(') text rest) (after : Allowed rest) :
    Allowed text := by
  induction passage with
  | done => exact after
  | char noEscape known more ih =>
    intro inClass
    rw [refusedInline_of_ne noEscape known]
    exact ih after _
  | escape more ih =>
    intro inClass
    rw [refusedInline.eq_2]
    exact ih after _

end Regex.Passage

theorem refusedLetter_cons (refused : refusedLetter (c :: rest) ≠ none) :
    c = 'm' ∨ c = 'x' ∨ c.isAlpha = true ∧ refusedLetter rest ≠ none := by
  rw [refusedLetter] at refused
  split at refused
  · next same => exact .inl same
  split at refused
  · next same => exact .inr (.inl same)
  split at refused
  · next letter => exact .inr (.inr ⟨letter, refused⟩)
  · contradiction

/-- Other characters end the letters of a group. -/
theorem refusedLetter_stops (other : c ≠ 'm' ∧ c ≠ 'x' ∧ c.isAlpha = false) (rest : List Char) :
    refusedLetter (c :: rest) = none := by
  simp [refusedLetter, other]

namespace Regex.Spans

variable {members : List ClassSet}

/-- Letters of a refused mode in a class are members of it. -/
theorem refusedAhead_of_letters (spans : Spans members text rest) (ends : rest.head? = some ']')
    (refused : refusedLetter text ≠ none) : refusedAhead members = true := by
  induction spans with
  | done =>
    obtain ⟨next, rfl⟩ := List.head?_eq_some_iff.1 ends
    exact absurd (refusedLetter_stops (by decide) next) refused
  | between known more ih =>
    exact absurd (refusedLetter_stops known.no_letter _) refused
  | single spelled made more ih =>
    cases spelled with
    | escape mute => exact absurd (refusedLetter_stops (by decide) _) refused
    | plain noEscape =>
      obtain rfl := Option.some.inj made
      rcases refusedLetter_cons refused with rfl | rfl | ⟨letter, later⟩
      · rfl
      · rfl
      · simp [refusedAhead, letter, ih ends later]
  | range spelled head other headLast more ih =>
    cases spelled with
    | escape mute => exact absurd (refusedLetter_stops (by decide) _) refused
    | plain noEscape =>
      rcases refusedLetter_cons refused with rfl | rfl | ⟨-, later⟩
      · rfl
      · rfl
      · exact absurd (refusedLetter_stops (by decide) _) later
  | named mute more ih => exact absurd (refusedLetter_stops (by decide) _) refused
  | closing more ih => exact absurd (refusedLetter_stops (by decide) _) refused

theorem refusedBehind_of_letters (spans : Spans members ('?' :: text) rest)
    (ends : rest.head? = some ']') (refused : refusedLetter text ≠ none) :
    refusedBehind members = true := by
  generalize shape : '?' :: text = marked at spans
  cases spans with
  | done =>
    rw [← shape] at ends
    exact absurd ends (by simp)
  | between known more =>
    obtain ⟨rfl, -⟩ := List.cons.inj shape
    exact absurd known (by decide)
  | single spelled made more =>
    cases spelled with
    | escape mute => simp at shape
    | plain noEscape =>
      obtain ⟨rfl, rfl⟩ := List.cons.inj shape
      obtain rfl := Option.some.inj made
      exact more.refusedAhead_of_letters ends refused
  | range spelled head other headLast more =>
    cases spelled with
    | escape mute => simp at shape
    | plain noEscape =>
      obtain ⟨-, rfl⟩ := List.cons.inj shape
      exact absurd (refusedLetter_stops (by decide) _) refused
  | named mute more => simp at shape
  | closing more => simp at shape

end Regex.Spans

/-- A member is passed unless it is an opening parenthesis with a refused group behind it. -/
theorem Regex.Spelled.allowed {tree : Tree} (spelled : Spelled tree text rest)
    (head : text.head? ≠ some ']')
    (group : inClass = false → tree = plainLiteral '(' →
      ∀ letters, rest = '?' :: letters → refusedLetter letters = none)
    (after : ∀ bit, (bit = false → inClass = false) → refusedInline bit rest = none) :
    refusedInline inClass text = none := by
  cases spelled with
  | escape mute =>
    rw [refusedInline.eq_2, mute.refusedInline_mute]
    exact after inClass id
  | @plain c text noEscape =>
    by_cases opening : c = '('
    · subst opening
      cases inClass with
      | true =>
        rw [refusedInline_inClass]
        exact after true id
      | false =>
        have later := after false id
        by_cases marked : rest.head? = some '?'
        · obtain ⟨letters, rfl⟩ := List.head?_eq_some_iff.1 marked
          rw [refusedInline_group (group rfl rfl letters rfl)]
          rwa [refusedInline_skip (by decide)] at later
        · rwa [refusedInline_plain marked]
    · rw [refusedInline_of_ne noEscape opening]
      exact after _ (of_bitAfter_eq_false fun same => head (by simp [same]))

theorem Regex.Spans.letters_allowed {member : ClassSet} {members : List ClassSet}
    (spans : Spans members ('?' :: text) rest) (ends : rest.head? = some ']')
    (clear : looksRefused (member :: members) = false) (opens : member.opens = true) :
    refusedLetter text = none := by
  have unmarked := (looksRefused_cons_eq_false.1 clear).1 opens
  by_contra refused
  rw [spans.refusedBehind_of_letters ends refused] at unmarked
  contradiction

/-- A class is passed if nothing in it looks like a refused group where the bit is clear. -/
theorem Regex.Spans.allowed {members : List ClassSet} (spans : Spans members text rest)
    (ends : rest.head? = some ']') (after : Allowed rest)
    (clear : inClass = false → looksRefused members = false)
    (harmless : looksHarmless members = true) : refusedInline inClass text = none := by
  induction spans generalizing inClass with
  | done => exact after inClass
  | between known more ih =>
    obtain ⟨noEscape, notOpening, noClosing⟩ := known.plain
    rw [refusedInline_of_ne noEscape notOpening]
    exact ih ends after (fun bit => clear (of_bitAfter_eq_false noClosing bit)) harmless
  | @single tree member members text next rest spelled made more ih =>
    obtain ⟨behind, quiet⟩ := looksHarmless_cons.1 harmless
    by_cases head : text.head? = some ']'
    · cases spelled with
      | escape mute => simp at head
      | plain noEscape =>
        obtain rfl := by simpa using head
        obtain rfl := Option.some.inj made
        rw [refusedInline.eq_4]
        exact ih ends after (fun _ => behind rfl) quiet
    · refine spelled.allowed head (fun bit opening letters shape => ?_) fun bit kept =>
        ih ends after (fun off => (looksRefused_cons_eq_false.1 (clear (kept off))).2) quiet
      subst opening shape
      obtain rfl := Option.some.inj made
      exact more.letters_allowed ends (clear bit) rfl
  | @range first last members text next later rest spelled head other headLast more ih =>
    obtain ⟨-, quiet⟩ := looksHarmless_cons.1 harmless
    refine spelled.allowed head (by simp) fun bit kept => ?_
    rw [refusedInline_skip (by decide)]
    refine other.allowed headLast (fun off opening letters shape => ?_) fun bit' kept' =>
      ih ends after (fun off => (looksRefused_cons_eq_false.1 (clear (kept (kept' off)))).2) quiet
    subst shape
    have opens : (ClassSet.range first last).opens = true := by
      simpa [ClassSet.opens, plainLiteral] using opening
    exact more.letters_allowed ends (clear (kept off)) opens
  | named mute more ih =>
    obtain ⟨behind, quiet⟩ := looksHarmless_cons.1 harmless
    rw [refusedInline.eq_3, (Passage.of_mute mute _).refusedInline_mute, refusedInline.eq_4]
    exact ih ends after (fun _ => behind rfl) quiet
  | closing more ih =>
    obtain ⟨behind, quiet⟩ := looksHarmless_cons.1 harmless
    rw [refusedInline.eq_4]
    exact ih ends after (fun _ => behind rfl) quiet

/-- The last bracket in the name is an opening one. -/
def endsOpen (name : List Char) : Bool := (name.filter fun c => c = '[' || c = ']').getLast? = some '['

/-- The bit after a name is that of the last bracket in it. -/
theorem foldl_bitAfter (name : List Char) (inClass : Bool) :
    name.foldl bitAfter inClass =
      ((name.filter fun c => c = '[' || c = ']').getLast?.elim inClass fun c => c = '[') := by
  induction name generalizing inClass with
  | nil => rfl
  | cons c rest ih =>
    rw [List.foldl_cons, ih]
    by_cases bracket : c = '[' ∨ c = ']'
    · have last : bitAfter inClass c = decide (c = '[') := by rcases bracket with rfl | rfl <;> rfl
      rw [List.filter_cons_of_pos (by simpa using bracket), List.getLast?_cons, last]
      cases (rest.filter fun c => c = '[' || c = ']').getLast? <;> rfl
    · have same : bitAfter inClass c = inClass := by
        rw [not_or] at bracket
        simp [bitAfter, bracket]
      rw [List.filter_cons_of_neg (by simpa using bracket), same]

theorem foldl_bitAfter_clear (name : List Char) : name.foldl bitAfter false = endsOpen name := by
  rw [foldl_bitAfter, endsOpen]
  cases (name.filter fun c => c = '[' || c = ']').getLast? <;> simp

theorem refusedInline_named {name mark : List Char} (marked : mark = ['P', '<'] ∨ mark = ['<'])
    (chars : ∀ c ∈ name, c ≠ '\\' ∧ c ≠ '(') :
    refusedInline inClass ('?' :: (mark ++ name ++ '>' :: next)) =
      refusedInline (name.foldl bitAfter inClass) next := by
  have inner : refusedInline inClass (name ++ '>' :: next) =
      refusedInline (name.foldl bitAfter inClass) next := by
    induction name generalizing inClass with
    | nil => exact refusedInline_skip (by decide) inClass next
    | cons c rest ih =>
      rw [List.forall_mem_cons] at chars
      rw [List.cons_append, refusedInline_of_ne chars.1.1 chars.1.2, ih chars.2, List.foldl_cons]
  rw [refusedInline_skip (by decide), List.append_assoc, ← inner]
  rcases marked with rfl | rfl
  · exact (refusedInline_skip (by decide) inClass _).trans (refusedInline_skip (by decide) inClass _)
  · exact refusedInline_skip (by decide) inClass _

/-- The start of a group with flags, behind the question mark. -/
theorem passage_flags (letters : flagLetters before turnedOff dangling text =
      some (changes, closing, next)) :
    Passage IsMute text next := by
  obtain ⟨front, rfl, mute, muteClosing⟩ := flagLetters_eq_some letters
  have both : IsMuteText (front ++ [closing]) :=
    isMuteText_append.2 ⟨mute, by simpa [IsMuteText] using muteClosing⟩
  simpa using Passage.of_mute both next

theorem harmless_nil : Harmless [] := ⟨List.not_mem_nil, List.not_mem_nil⟩

/-- Where the check refuses nothing, the flag groups on the way turn on no refused mode, as long as no
opening bracket is the last one in the name of a group. -/
theorem Regex.Walk.harmless {parts : List Part} (walk : Walk parts text rest)
    (allowed : refusedInline false text = none)
    (names : ∀ name, .groupName name ∈ parts → endsOpen name = false) :
    ∀ changes, .flags changes ∈ parts → Harmless changes := by
  induction walk with
  | done => simp
  | passage passage more ih => exact ih (passage.refusedInline_clear ▸ allowed) names
  | unicode more ih => simpa using ih allowed (by simpa using names)
  | @brackets set parts text next rest inside more ih =>
    obtain ⟨inClass, behind⟩ :=
      inside.passage.refusedInline_rest (refusedInline_cons (by decide) allowed)
    simpa using ih (refusedInline_cons (by decide) behind) (by simpa using names)
  | @group parts text rest plain more ih =>
    have later := ih (refusedInline_cons (by decide) allowed) (by simpa using names)
    simpa [harmless_nil] using later
  | @named name mark parts next rest marked chars more ih =>
    have passed : refusedInline (name.foldl bitAfter false) next = none :=
      refusedInline_named marked chars ▸ refusedInline_cons (by decide) allowed
    rw [foldl_bitAfter_clear, names name List.mem_cons_self] at passed
    have later := ih passed fun other member => names other (by simp [member])
    simpa [harmless_nil] using later
  | @flags changes closing parts text next rest letters more ih =>
    have unrefused := refusedLetter_of_allowed allowed
    have plain := (passage_flags letters).mono fun c mute =>
      And.intro (isMute_iff.1 mute).2.1 (isMute_iff.1 mute).2.2.2
    rw [refusedInline_group unrefused, plain.refusedInline_clear] at allowed
    have later := ih allowed (by simpa using names)
    have here : Harmless changes := (refusedLetter_eq_none_iff harmless_nil letters).1 unrefused
    simpa [here] using later

/-- Where the flag groups on the way turn on no refused mode, the check refuses nothing, as long as
nothing in a class behind a closing bracket looks like a group that does. -/
theorem Regex.Walk.allowed {parts : List Part} (walk : Walk parts text rest) (after : Allowed rest)
    (harmless : ∀ changes, .flags changes ∈ parts → Harmless changes)
    (ordered : ∀ set, .brackets set ∈ parts → looksHarmless set.members = true) : Allowed text := by
  induction walk with
  | done => exact after
  | passage passage more ih =>
    exact (passage.mono fun _ known => known.2).allowed_of_rest (ih after harmless ordered)
  | unicode more ih => exact ih after (by simpa using harmless) (by simpa using ordered)
  | @brackets set parts text next rest inside more ih =>
    have behind := ih after (by simpa using harmless) fun other member =>
      ordered other (List.mem_cons_of_mem _ member)
    have closing : Allowed (']' :: next) := fun inClass => by
      rw [refusedInline.eq_4]
      exact behind false
    intro inClass
    rw [refusedInline.eq_3]
    exact inside.allowed rfl closing (by simp) (ordered set List.mem_cons_self)
  | @group parts text rest plain more ih =>
    have behind := ih after (fun changes member => harmless changes (by simp [member]))
      (by simpa using ordered)
    intro inClass
    rw [refusedInline_plain plain]
    exact behind inClass
  | @named name mark parts next rest marked chars more ih =>
    have behind := ih after (fun changes member => harmless changes (by simp [member]))
      (by simpa using ordered)
    have letters : refusedLetter (mark ++ name ++ '>' :: next) = none := by
      rcases marked with rfl | rfl <;> rfl
    intro inClass
    rw [refusedInline_group letters, ← refusedInline_skip (by decide : '?' ∉ ['\\', '[', ']', '(']),
      refusedInline_named marked chars]
    exact behind _
  | @flags changes closing parts text next rest letters more ih =>
    have behind := ih after (fun changes member => harmless changes (by simp [member]))
      (by simpa using ordered)
    have unrefused := (refusedLetter_eq_none_iff harmless_nil letters).2
      (harmless changes List.mem_cons_self)
    have plain := (passage_flags letters).mono fun c mute => (isMute_iff.1 mute).2.2.2
    intro inClass
    rw [refusedInline_group unrefused]
    exact plain.allowed_of_rest behind inClass

theorem enables_eq_false {tree : Tree}
    (harmless : ∀ changes, .flags changes ∈ tree.parts → Harmless changes) :
    tree.enables .multiLine = false ∧ tree.enables .verbose = false := by
  rw [Bool.eq_false_iff, Bool.eq_false_iff]
  constructor
  · intro enabled
    obtain ⟨changes, member, turned⟩ := Tree.enables_iff.1 enabled
    exact (harmless changes member).1 turned
  · intro enabled
    obtain ⟨changes, member, turned⟩ := Tree.enables_iff.1 enabled
    exact (harmless changes member).2 turned

theorem harmless_of_enables {tree : Tree} (multiLine : tree.enables .multiLine = false)
    (verbose : tree.enables .verbose = false) :
    ∀ changes, .flags changes ∈ tree.parts → Harmless changes := by
  intro changes member
  rw [Bool.eq_false_iff] at multiLine verbose
  exact ⟨fun turned => multiLine (Tree.enables_iff.2 ⟨changes, member, turned⟩),
    fun turned => verbose (Tree.enables_iff.2 ⟨changes, member, turned⟩)⟩

/-- The ways to have a regular expression accepted: by itself, in the text of a rule, or in the structured
form of one. -/
inductive Regexp.Accepted (regexp : Regexp) : Prop where
  | alone (obtained : regexp.Obtained)
  | written {text : String} {expression : Expression} (read : RuleText.read? text = some expression)
    (mentioned : expression.normal.Mentions (.regexp regexp))
  | structured {value : Json} {expression : Expression}
    (decoded : Expression.ofJson? value = some expression)
    (mentioned : expression.normal.Mentions (.regexp regexp))

theorem Regexp.Accepted.made {regexp : Regexp} (accepted : regexp.Accepted) :
    ∃ pattern ignoreCase, Regexp.ofSource pattern ignoreCase = .ok regexp := by
  cases accepted with
  | alone obtained => exact obtained.made
  | written read mentioned =>
    obtain ⟨pattern, ignoreCase, -, made⟩ := mentioned.holds (RuleText.scanned_of_read? read)
    exact ⟨pattern, ignoreCase, made⟩
  | structured decoded mentioned => exact mentioned.holds (Expression.made_of_ofJson? decoded)

/-- However a regular expression was accepted, its source is read as a tree in which no flag group, at any
depth, turns on multi-line or verbose mode; unless an opening bracket is the last one in the name of some
group. -/
theorem accepted_expressions_keep_modes {regexp : Regexp} (accepted : regexp.Accepted) :
    ∃ tree, Regex.read? regexp.source.toList = some tree ∧
      ((∀ name ∈ tree.groupNames, endsOpen name = false) →
        tree.enables .multiLine = false ∧ tree.enables .verbose = false) := by
  obtain ⟨pattern, ignoreCase, made⟩ := accepted.made
  obtain ⟨allowed, same, -⟩ := Regexp.source_of_ofSource made
  rw [← refusedInline_unescapeSlashes, ← same] at allowed
  obtain ⟨tree, read, meant⟩ := Option.bind_eq_some_iff.1 regexp.compiled
  have known := Tree.known_of_meaning? tree (Option.isSome_of_isSome_bind (Option.isSome_of_eq_some meant))
  refine ⟨tree, read, fun names => enables_eq_false ?_⟩
  obtain ⟨s, t, start, -, follows⟩ := read?_follows read
  rw [← start] at allowed
  have plain (name : List Char) (member : .groupName name ∈ tree.parts) : endsOpen name = false :=
    names name (Tree.mem_groupNames.2 member)
  cases follows with
  | through strict walk => exact (walk known).harmless allowed plain
  | @stops before after changes met verbose walk =>
    -- The group that turns verbose mode on is met while the bit is still right, so it would have been
    -- refused.
    have within {part : Part} (inside : part ∈ before ++ [.flags changes]) : part ∈ tree.parts := by
      rw [met, List.append_cons]
      exact List.mem_append_left after inside
    obtain ⟨rest, walk⟩ := walk fun part inside => known part (within (List.mem_append_left _ inside))
    have harmless := walk.harmless allowed fun name inside => plain name (within inside)
    exact absurd verbose (harmless changes (by simp)).2

/-- An expression with brackets in the name of a group, what looks like a flag group in a class, and flag
groups. -/
theorem accepted_expressions_keep_modes_named : ∃ regexp tree,
    Regexp.ofSource "(?P<_[]>[b(?m])(?s-m:c(?U))".toList false = .ok regexp ∧
      Regex.read? regexp.source.toList = some tree ∧
      tree.enables .multiLine = false ∧ tree.enables .verbose = false := by
  obtain ⟨regexp, made⟩ := @Regexp.exists_ofSource "(?P<_[]>[b(?m])(?s-m:c(?U))".toList false
    (by decide +kernel) (by decide +kernel)
  obtain ⟨tree, read, keeps⟩ := accepted_expressions_keep_modes (.alone (.source made))
  have names : (Regex.read? (unescapeSlashes "(?P<_[]>[b(?m])(?s-m:c(?U))".toList)).all
      (·.groupNames.all (!endsOpen ·)) = true := by decide +kernel
  rw [← (Regexp.source_of_ofSource made).2.1, read, Option.all_some, List.all_eq_true] at names
  exact ⟨regexp, tree, made, read, keeps (by simpa using names)⟩

/-- Behind an opening bracket in the name of a group, a flag group that turns on multi-line mode is
accepted. -/
theorem multi_line_behind_group_name :
    ∃ regexp, Regexp.ofSource "(?P<_[>x)(?m)^b".toList false = .ok regexp ∧
      ∃ tree, Regex.read? regexp.source.toList = some tree ∧ tree.enables .multiLine = true := by
  obtain ⟨regexp, made⟩ := @Regexp.exists_ofSource "(?P<_[>x)(?m)^b".toList false
    (by decide +kernel) (by decide +kernel)
  refine ⟨regexp, made, ?_⟩
  rw [(Regexp.source_of_ofSource made).2.1, ← Option.any_eq_true]
  decide +kernel

/-- Nothing else is refused for its modes: a pattern with a meaning, however its slashes are written,
is not if no flag group in it turns on multi-line or verbose mode; unless members of a class behind a
closing bracket within the class look like such a group: an opening parenthesis, a question mark, and
letters with one of a refused mode. -/
theorem harmless_patterns_are_not_forbidden {source spelled : List Char} {ignoreCase : Bool} {tree : Tree}
    (read : Regex.read? source = some tree) (meant : (tree.meaning? (startFlags ignoreCase)).isSome = true)
    (multiLine : tree.enables .multiLine = false) (verbose : tree.enables .verbose = false)
    (ordered : ∀ set ∈ tree.classes, looksHarmless set.members = true)
    (spelling : unescapeSlashes spelled = unescapeSlashes source)
    (mode : RegexpMode) : Regexp.ofSource spelled ignoreCase ≠ .error (.forbiddenMode mode) := by
  have harmless := harmless_of_enables multiLine verbose
  have allowed : refusedInline false spelled = none := by
    rw [← refusedInline_unescapeSlashes, spelling, refusedInline_unescapeSlashes]
    obtain ⟨s, t, rfl, ends, follows⟩ := read?_follows read
    cases follows with
    | through strict walk =>
      refine (walk (Tree.known_of_meaning? tree meant)).allowed ?_ harmless
        (fun set inside => ordered set (Tree.mem_classes.2 inside)) false
      rw [ends]
      exact fun _ => rfl
    | @stops before after changes met verbose walk =>
      exact absurd verbose (harmless changes (by simp [met])).2
  intro refused
  unfold Regexp.ofSource at refused
  rw [allowed] at refused
  dsimp only at refused
  split at refused
  · contradiction
  · exact nomatch refused

/-- An opening parenthesis stands in a class behind a class by name, and what looks like a flag group
in another one before a class within it; the slash is escaped. -/
theorem harmless_patterns_are_not_forbidden_in_class : ∃ tree,
    Regex.read? "[[:alpha:](][(?m[a]]/".toList = some tree ∧
    ∀ mode, Regexp.ofSource "[[:alpha:](][(?m[a]]\\/".toList false ≠ .error (.forbiddenMode mode) := by
  obtain ⟨tree, read⟩ := Option.isSome_iff_exists.1
    (show (Regex.read? "[[:alpha:](][(?m[a]]/".toList).isSome = true by decide +kernel)
  have facts : (Regex.read? "[[:alpha:](][(?m[a]]/".toList).all
      (fun tree => (tree.meaning? (startFlags false)).isSome &&
        !tree.enables .multiLine && !tree.enables .verbose &&
        tree.classes.all (looksHarmless ·.members)) = true := by
    decide +kernel
  simp only [read, Option.all_some, Bool.and_eq_true, Bool.not_eq_true', List.all_eq_true] at facts
  obtain ⟨⟨⟨meant, multiLine⟩, verbose⟩, ordered⟩ := facts
  exact ⟨tree, read, harmless_patterns_are_not_forbidden read meant multiLine verbose ordered
    (by decide)⟩

/-- A class within a class closes before an opening parenthesis of the outer one: the pattern is valid and
has no flag group at all, and is refused for multi-line mode. -/
theorem class_member_forbidden :
    (compile? "[[a](?m]".toList false).isSome = true ∧
    (∃ tree, Regex.read? "[[a](?m]".toList = some tree ∧ tree.flagGroups = []) ∧
    Regexp.ofSource "[[a](?m]".toList false = .error (.forbiddenMode .multiLine) := by
  refine ⟨by decide +kernel, ?_, rfl⟩
  obtain ⟨tree, read⟩ := Option.isSome_iff_exists.1
    (show (Regex.read? "[[a](?m]".toList).isSome = true by decide +kernel)
  refine ⟨tree, read, ?_⟩
  have none : (Regex.read? "[[a](?m]".toList).all (·.flagGroups = []) = true := by decide +kernel
  rwa [read, Option.all_some, decide_eq_true_eq] at none

end EventRouting
