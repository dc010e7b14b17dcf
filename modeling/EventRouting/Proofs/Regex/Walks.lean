import EventRouting.Proofs.Regex.Brackets

set_option autoImplicit false

namespace EventRouting.Regex

open Reading Text

/-- The way through a pattern up to the rest, with the parts that are met. -/
inductive Walk : List Part → List Char → List Char → Prop where
  | done {text : List Char} : Walk [] text text
  | passage {parts : List Part} {text next rest : List Char}
    (passage : Passage (fun c => c ≠ '[' ∧ c ≠ '(') text next) (more : Walk parts next rest) :
    Walk parts text rest
  | unicode {name : UnicodeName} {parts : List Part} {text rest : List Char} (more : Walk parts text rest) :
    Walk (.unicode name :: parts) text rest
  | brackets {set : ClassSet} {parts : List Part} {text next rest : List Char}
    (inside : Spans set.members text (']' :: next)) (more : Walk parts next rest) :
    Walk (.brackets set :: parts) ('[' :: text) rest
  | group {parts : List Part} {text rest : List Char} (plain : text.head? ≠ some '?')
    (more : Walk parts text rest) :
    Walk (.flags [] :: parts) ('(' :: text) rest
  | named {name mark : List Char} {parts : List Part} {next rest : List Char}
    (marked : mark = ['P', '<'] ∨ mark = ['<']) (chars : ∀ c ∈ name, c ≠ '\\' ∧ c ≠ '(')
      (more : Walk parts next rest) :
    Walk (.groupName name :: .flags [] :: parts) ('(' :: '?' :: (mark ++ name ++ '>' :: next)) rest
  | flags {changes : FlagChanges} {closing : Char} {parts : List Part} {text next rest : List Char}
    (letters : flagLetters [] false false text = some (changes, closing, next))
      (more : Walk parts next rest) :
    Walk (.flags changes :: parts) ('(' :: '?' :: text) rest

namespace Walk

variable {front back : List Part} {text middle rest : List Char}

theorem append (first : Walk front text middle) (second : Walk back middle rest) :
    Walk (front ++ back) text rest := by
  induction first with
  | done => exact second
  | passage passage more ih => exact .passage passage (ih second)
  | unicode more ih => exact .unicode (ih second)
  | brackets inside more ih => exact .brackets inside (ih second)
  | group plain more ih => exact .group plain (ih second)
  | named marked chars more ih => exact .named marked chars (ih second)
  | flags letters more ih => exact .flags letters (ih second)

theorem of_mute (passage : Passage IsMute text rest) : Walk [] text rest := by
  refine .passage (passage.mono fun c mute => ?_) .done
  obtain ⟨-, noBracket, -, noOpening⟩ := isMute_iff.1 mute
  exact ⟨noBracket, noOpening⟩

theorem of_takes {s t : Cursor} {taken : List Char} (takes : Takes s taken t) (mute : IsMuteText taken) :
    Walk [] s.rest t.rest :=
  of_mute (.of_takes takes mute)

end Walk

variable {s t : Cursor}

theorem flagLetters_eq_some {before changes : FlagChanges} {turnedOff dangling : Bool} {closing : Char}
    {text next : List Char} (read : flagLetters before turnedOff dangling text =
      some (changes, closing, next)) :
    ∃ letters, text = letters ++ closing :: next ∧ IsMuteText letters ∧ IsMute closing := by
  fun_induction flagLetters before turnedOff dangling text with
  | case3 before turnedOff dangling c rest ends =>
    obtain ⟨rfl, rfl, rfl⟩ := by simpa using read
    refine ⟨[], rfl, isMuteText_nil, @isMute_of_kind c (fun c => c = ':' || c = ')') ends (by decide)⟩
  | case5 before turnedOff dangling rest _ _ ih =>
    obtain ⟨letters, rfl, mute, closes⟩ := ih read
    exact ⟨'-' :: letters, rfl, isMuteText_cons.2 ⟨by decide, mute⟩, closes⟩
  | case6 before turnedOff dangling c rest _ _ ih =>
    rw [Option.bind_eq_bind, Option.bind_eq_some_iff] at read
    obtain ⟨flag, named, read⟩ := read
    split at read
    · contradiction
    · obtain ⟨letters, rfl, mute, closes⟩ := ih flag read
      have muteFirst : IsMute c :=
        @isMute_of_kind c (fun c => (flagNamed c).isSome) (Option.isSome_of_eq_some named) (by decide)
      exact ⟨c :: letters, rfl, isMuteText_cons.2 ⟨muteFirst, mute⟩, closes⟩
  | _ => contradiction

theorem isNamePart_of_start {c : Char} (start : isNameStart c = true) : isNamePart c = true := by
  simp [isNamePart, start]

/-- A name goes up to the next closing angle bracket. -/
theorem readGroupName_takes {name : List Char} (read : readGroupName s = some (name, t)) :
    Takes s (name ++ ['>']) t ∧ ∀ c ∈ name, c ≠ '\\' ∧ c ≠ '(' := by
  simp only [readGroupName, bind_eq_some, rest_eq_some] at read
  obtain ⟨text, _, ⟨shape, rfl⟩, read⟩ := read
  have whole : text.takeWhile (· ≠ '>') ++ text.dropWhile (· ≠ '>') = text :=
    List.takeWhile_append_dropWhile
  have behind : text.drop (text.takeWhile (· ≠ '>')).length = text.dropWhile (· ≠ '>') := by
    calc text.drop (text.takeWhile (· ≠ '>')).length
      _ = (text.takeWhile (· ≠ '>') ++ text.dropWhile (· ≠ '>')).drop
        (text.takeWhile (· ≠ '>')).length := by rw [whole]
      _ = text.dropWhile (· ≠ '>') := List.drop_left
  have ends := List.head?_dropWhile_not (· ≠ '>') text
  rw [behind] at read
  generalize text.takeWhile (· ≠ '>') = found at whole read
  generalize text.dropWhile (· ≠ '>') = after at whole read ends
  cases found with
  | nil => simp at read
  | cons first others =>
    cases after with
    | nil => simp at read
    | cons mark rest =>
      simp only [bind_eq_some, get_eq_some] at read
      obtain ⟨before, _, ⟨rfl, rfl⟩, read⟩ := read
      split at read
      · next valid =>
        simp only [bind_eq_some, modify_eq_some, pure_eq_some] at read
        obtain ⟨_, _, rfl, rfl, rfl⟩ := read
        simp only [Bool.and_eq_true, List.all_eq_true] at valid
        obtain rfl : mark = '>' := by simpa using ends
        refine ⟨⟨by rw [shape, ← whole]; simp, rfl⟩, ?_⟩
        rintro c (_ | ⟨_, inside⟩)
        · exact isNamePart_ne (isNamePart_of_start valid.1.1)
        · exact isNamePart_ne (valid.1.2 c inside)
      · simp at read

/-- The parts that the start of a group says. -/
def GroupStart.parts : GroupStart → List Part
  | .flags changes => [.flags changes]
  | .opening name changes => name.toList.map .groupName ++ [.flags changes]

theorem readFlags_walk {start : GroupStart} {text : List Char} (read : readFlags text s = some (start, t)) :
    t.verbose = s.verbose ∧ Walk start.parts ('(' :: '?' :: text) t.rest := by
  simp only [readFlags, bind_eq_some, lift_eq_some] at read
  obtain ⟨⟨changes, closing, next⟩, _, ⟨letters, rfl⟩, _, _, moved, read⟩ := read
  obtain rfl := setRest_eq_some.1 moved
  dsimp only at read
  split at read
  · obtain ⟨rfl, rfl⟩ := pure_eq_some.1 read
    exact ⟨rfl, .flags letters .done⟩
  split at read
  · simp at read
  · obtain ⟨rfl, rfl⟩ := pure_eq_some.1 read
    exact ⟨rfl, .flags letters .done⟩

theorem readGroupStart_walk {start : GroupStart} (plain : s.verbose = false)
    (read : readGroupStart s = some (start, t)) :
    t.verbose = false ∧ Walk start.parts ('(' :: s.rest) t.rest := by
  simp only [readGroupStart, bind_eq_some, settle_eq_some plain, rest_eq_some] at read
  obtain ⟨_, _, rfl, text, _, ⟨shape, rfl⟩, read⟩ := read
  have named {mark text : List Char} (marked : mark = ['P', '<'] ∨ mark = ['<'])
      {name : List Char} {u v : Cursor}
      (moved : { s with rest := text } = u) (called : readGroupName u = some (name, v))
      (here : s.rest = '?' :: (mark ++ text)) (made : GroupStart.opening (some name) [] = start ∧ v = t) :
      t.verbose = false ∧ Walk start.parts ('(' :: s.rest) t.rest := by
    subst moved
    obtain ⟨rfl, rfl⟩ := made
    obtain ⟨takes, chars⟩ := readGroupName_takes called
    refine ⟨takes.strict plain, ?_⟩
    have written : text = name ++ '>' :: v.rest := by simpa using takes.rest
    rw [here, written, ← List.append_assoc]
    exact .named marked chars .done
  split at read
  · simp at read
  · simp at read
  · simp at read
  · simp at read
  · simp only [bind_eq_some, setRest_eq_some, pure_eq_some] at read
    obtain ⟨_, _, moved, _, _, called, made⟩ := read
    exact named (.inl rfl) moved called shape made
  · simp only [bind_eq_some, setRest_eq_some, pure_eq_some] at read
    obtain ⟨_, _, moved, _, _, called, made⟩ := read
    exact named (.inr rfl) moved called shape made
  · rw [shape]
    obtain ⟨same, walk⟩ := readFlags_walk read
    exact ⟨same.trans plain, walk⟩
  · next noQuestion =>
    obtain ⟨rfl, rfl⟩ := pure_eq_some.1 read
    refine ⟨plain, .group (fun head => ?_) .done⟩
    obtain ⟨rest, same⟩ := List.head?_eq_some_iff.1 head
    exact noQuestion rest (shape ▸ same)

/-- Verbose mode is on only if a flag has turned it on. -/
theorem verboseAfter_eq_some {changes : FlagChanges} {value : Unit} (plain : s.verbose = false)
    (read : verboseAfter changes s = some (value, t)) :
    t.rest = s.rest ∧ (t.verbose = false ∨ (.verbose, true) ∈ changes) := by
  rw [verboseAfter, modify_eq_some] at read
  subst read
  split
  · next verbose known =>
    refine ⟨rfl, ?_⟩
    cases verbose with
    | false => exact .inl rfl
    | true =>
      obtain ⟨front, back, rfl, -⟩ := List.lookup_eq_some_iff.1 known
      exact .inr (List.mem_append_right _ List.mem_cons_self)
  · exact ⟨rfl, .inl plain⟩

theorem skip_blanks (s : Cursor) :
    ∃ taken, Takes s taken { s with rest := dropBlanks s.rest } ∧ IsMuteText taken := by
  refine ⟨s.rest.takeWhile isBlank, ⟨List.takeWhile_append_dropWhile.symm, rfl⟩, fun c inside => ?_⟩
  exact isMute_of_kind (List.all_eq_true.1 List.all_takeWhile c inside) (by decide)

theorem readCount_takes {count : Nat} (plain : s.verbose = false) (read : readCount s = some (count, t)) :
    ∃ taken, Takes s taken t ∧ IsMuteText taken := by
  simp only [readCount, bind_eq_some, modify_eq_some] at read
  obtain ⟨_, _, rfl, digits, u, took, _, _, rfl, _, v, settled, read⟩ := read
  obtain ⟨front, first, muteFront⟩ := skip_blanks s
  obtain ⟨number, known⟩ := takeWhile_takes (first.strict plain) took
  obtain ⟨back, last, muteBack⟩ := skip_blanks u
  have strict := (number.trans last).strict (first.strict plain)
  obtain rfl := (settle_eq_some strict).1 settled
  have muteDigits : IsMuteText digits := fun c inside => isMute_of_kind (known c inside) (by decide)
  split at read
  · simp at read
  · obtain ⟨-, rfl⟩ := pure_eq_some.1 read
    refine ⟨_, (first.trans number).trans last, ?_⟩
    rw [isMuteText_append, isMuteText_append]
    exact ⟨⟨muteFront, muteDigits⟩, muteBack⟩

theorem readCounts_takes {counts : Nat × Option Nat} (plain : s.verbose = false)
    (read : readCounts s = some (counts, t)) : ∃ taken, Takes s taken t ∧ IsMuteText taken := by
  simp only [readCounts, bind_eq_some, settle_eq_some plain] at read
  obtain ⟨_, _, rfl, least, u, first, read⟩ := read
  obtain ⟨taken, number, mute⟩ := readCount_takes plain first
  have closing {front : List Char} {v w x : Cursor} {value : Unit} (takes : Takes s front v)
      (muteFront : IsMuteText front) (closed : expect '\x7d' v = some (value, w))
      (settled : settle w = some (value, x)) (same : x = t) : ∃ taken, Takes s taken t ∧
        IsMuteText taken := by
    have whole := takes.trans (expect_takes closed)
    obtain rfl := (settle_eq_some (whole.strict plain)).1 settled
    subst same
    exact ⟨_, whole, isMuteText_append.2 ⟨muteFront, by decide⟩⟩
  obtain ⟨found, v, accepted, read⟩ := read
  rcases accept_takes accepted with ⟨rfl, comma⟩ | ⟨rfl, rfl, -⟩
  · have strict := (number.trans comma).strict plain
    have muteComma : IsMuteText (taken ++ [',']) := isMuteText_append.2 ⟨mute, by decide⟩
    simp only [if_true, bind_eq_some, settle_eq_some strict, rest_eq_some] at read
    obtain ⟨_, _, rfl, text, _, ⟨-, rfl⟩, read⟩ := read
    split at read
    · simp only [bind_eq_some, pure_eq_some] at read
      obtain ⟨_, _, ⟨-, rfl⟩, _, _, closed, _, _, settled, -, same⟩ := read
      exact closing (number.trans comma) muteComma closed settled same
    · obtain ⟨most, w, second, read⟩ := bind_eq_some.1 read
      obtain ⟨others, more, muteMore⟩ := readCount_takes strict second
      split at read
      · simp only [bind_eq_some, pure_eq_some] at read
        obtain ⟨_, _, ⟨-, rfl⟩, _, _, closed, _, _, settled, -, same⟩ := read
        exact closing ((number.trans comma).trans more)
          (isMuteText_append.2 ⟨muteComma, muteMore⟩) closed settled same
      · simp at read
  · simp only [Bool.false_eq_true, if_false, bind_eq_some, pure_eq_some] at read
    obtain ⟨_, _, ⟨-, rfl⟩, _, _, closed, _, _, settled, -, same⟩ := read
    exact closing number mute closed settled same

/-- The parts of what has been read, the alternatives before and the items of the present one each last
first. -/
def seenParts (branches items : List Tree) : List Part :=
  branches.reverse.flatMap Tree.parts ++ items.reverse.flatMap Tree.parts

theorem parts_sequenceOf (items : List Tree) : (sequenceOf items).parts = items.flatMap Tree.parts := by
  unfold sequenceOf
  split
  · rfl
  · simp
  · rw [Tree.parts, Tree.allParts_eq]

theorem parts_alternationOf (branches : List Tree) :
    (alternationOf branches).parts = branches.flatMap Tree.parts := by
  unfold alternationOf
  split
  · simp
  · rw [Tree.parts, Tree.allParts_eq]

theorem seenParts_cons (branches items : List Tree) (item : Tree) :
    seenParts branches (item :: items) = seenParts branches items ++ item.parts := by
  simp [seenParts]

theorem seenParts_branch (branches items : List Tree) :
    seenParts (sequenceOf items.reverse :: branches) [] = seenParts branches items := by
  simp [seenParts, parts_sequenceOf]

theorem parts_whole (branches items : List Tree) :
    (alternationOf (sequenceOf items.reverse :: branches).reverse).parts = seenParts branches items := by
  simp [seenParts, parts_alternationOf, parts_sequenceOf]

theorem seenParts_repeatLast {least : Nat} {most : Option Nat} {branches items after : List Tree}
    (repeated : repeatLast least most items = some after) :
    seenParts branches after = seenParts branches items := by
  unfold repeatLast at repeated
  split at repeated
  · split at repeated
    · obtain rfl := Option.some.inj repeated
      simp [seenParts, Tree.parts]
    · contradiction
  · contradiction

/-- From one place to another the reader meets the parts and walks all the way, or up to a group that turns
verbose mode on. -/
inductive Follows (s t : Cursor) (parts : List Part) : Prop where
  | through (strict : t.verbose = false)
    (walk : (∀ part ∈ parts, part.Known) → Walk parts s.rest t.rest)
  | stops {before after : List Part} {changes : FlagChanges}
    (met : parts = before ++ .flags changes :: after)
    (verbose : (.verbose, true) ∈ changes)
    (walk : (∀ part ∈ before, part.Known) → ∃ rest, Walk (before ++ [.flags changes]) s.rest rest)

namespace Follows

variable {u : Cursor} {front back : List Part}

theorem refl (plain : s.verbose = false) : Follows s s [] := .through plain fun _ => .done

theorem trans (first : Follows s u front) (second : u.verbose = false → Follows u t back) :
    Follows s t (front ++ back) := by
  cases first with
  | through strict walk =>
    cases second strict with
    | through strict more =>
      refine .through strict fun known => ?_
      rw [List.forall_mem_append] at known
      exact (walk known.1).append (more known.2)
    | @stops before after changes met verbose more =>
      have whole : front ++ back = (front ++ before) ++ .flags changes :: after := by
        rw [met, List.append_assoc]
      refine .stops whole verbose fun known => ?_
      rw [List.forall_mem_append] at known
      obtain ⟨rest, more⟩ := more known.2
      rw [List.append_assoc]
      exact ⟨rest, (walk known.1).append more⟩
  | @stops before after changes met verbose walk =>
    have whole : front ++ back = before ++ .flags changes :: (after ++ back) := by
      rw [met, List.append_assoc, List.cons_append]
    exact .stops whole verbose walk

theorem of_takes {taken : List Char} (plain : s.verbose = false) (takes : Takes s taken t)
    (mute : IsMuteText taken) :
    Follows s t [] := .through (takes.strict plain) fun _ => .of_takes takes mute

end Follows

/-- The tree that is read has the parts seen before and those on the way from here. -/
def Finishes (seen : List Part) (s : Cursor) (tree : Tree) (t : Cursor) : Prop :=
  ∃ more, tree.parts = seen ++ more ∧ (s.verbose = false → Follows s t more)

theorem Finishes.step {seen new : List Part} {tree : Tree} {u : Cursor}
    (later : Finishes (seen ++ new) u tree t)
    (here : s.verbose = false → Follows s u new) : Finishes seen s tree t := by
  obtain ⟨more, parts, follows⟩ := later
  exact ⟨new ++ more, by rw [parts, List.append_assoc], fun plain => (here plain).trans follows⟩

/-- The parts of a group, up to what stands in it. -/
theorem follows_group {r u v : Cursor} {names : List Part} {changes : FlagChanges} {value : Unit}
    (strict : u.verbose = false) (walk : Walk (names ++ [.flags changes]) r.rest u.rest)
    (changed : verboseAfter changes u = some (value, v)) : Follows r v (names ++ [.flags changes]) := by
  obtain ⟨same, plain | verbose⟩ := verboseAfter_eq_some strict changed
  · exact .through plain fun _ => same ▸ walk
  · have last : names ++ [.flags changes] = names ++ .flags changes :: [] := rfl
    exact .stops last verbose fun _ => ⟨u.rest, walk⟩

theorem Walk.idle {parts : List Part} (names : ∀ part ∈ parts, ∃ name, part = .unicode name)
    (text : List Char) :
    Walk parts text text := by
  induction parts with
  | nil => exact .done
  | cons part parts ih =>
    rw [List.forall_mem_cons] at names
    obtain ⟨⟨name, rfl⟩, names⟩ := names
    exact .unicode (ih names)

theorem Follows.char {c : Char} {text : List Char} (plain : s.verbose = false) (shape : s.rest = c :: text)
    (other : c ∉ ['\\', '[', '(']) : Follows s { s with rest := text } [] := by
  simp only [List.mem_cons, List.not_mem_nil, or_false, not_or] at other
  refine .through plain fun _ => ?_
  rw [shape]
  exact .passage (.char other.1 other.2 .done) .done

theorem Follows.escape {tree : Tree} {text : List Char} (plain : s.verbose = false)
    (shape : s.rest = '\\' :: text)
    (read : readEscape { s with rest := text } = some (tree, t)) : Follows s t tree.parts := by
  obtain ⟨⟨c, taken, takes, mute⟩, names⟩ :=
    readEscape_escapes (s := { s with rest := text }) plain read
  refine .through (takes.strict plain) fun known => ?_
  have written : text = c :: (taken ++ t.rest) := takes.rest
  rw [shape, written]
  exact .passage (.escape .done) ((Walk.of_mute (.of_mute (mute known) t.rest)).append (.idle names t.rest))

theorem Follows.brackets {tree : Tree} {text : List Char} (plain : s.verbose = false)
    (shape : s.rest = '[' :: text)
    (read : readClass { s with rest := text } = some (tree, t)) : Follows s t tree.parts := by
  obtain ⟨strict, negated, set, rfl, spans⟩ := readClass_spans (s := { s with rest := text }) plain read
  refine .through strict fun known => ?_
  rw [shape]
  exact .brackets (spans (known (.brackets set) List.mem_cons_self)) .done

/-- Counts in braces. -/
theorem Follows.counts {counts : Nat × Option Nat} {text : List Char} (plain : s.verbose = false)
    (shape : s.rest = '\x7b' :: text)
    (read : readCounts { s with rest := text } = some (counts, t)) : Follows s t [] := by
  have brace : Follows s { s with rest := text } [] := .char plain shape (by decide)
  refine brace.trans fun strict => ?_
  obtain ⟨taken, takes, mute⟩ := readCounts_takes strict read
  exact .of_takes strict takes mute

/-- Behind the closing parenthesis verbose mode is what it was before the group. -/
theorem Follows.group {r u v w : Cursor} {name : Option (List Char)} {changes : FlagChanges} {inner : Tree}
    {value : Unit} (strict : s.verbose = false)
    (walk : Walk (GroupStart.opening name changes).parts r.rest s.rest)
    (changed : verboseAfter changes s = some (value, u))
    (inside : u.verbose = false → Follows u v inner.parts) (closed : expect ')' v = some (value, w)) :
    Follows r { w with verbose := s.verbose } (Tree.group name changes inner).parts := by
  have closing : Walk [] v.rest w.rest := .of_takes (expect_takes closed) (by decide)
  have close : Follows v { w with verbose := s.verbose } [] := .through strict fun _ => closing
  have whole := (follows_group strict walk changed).trans fun plain => (inside plain).trans fun _ => close
  rwa [List.append_nil, List.append_assoc] at whole

namespace Finishes

variable {u : Cursor} {tree : Tree} {branches items : List Tree}

theorem idle {seen : List Part} (later : Finishes seen u tree t)
    (here : s.verbose = false → Follows s u []) : Finishes seen s tree t := by
  rw [← List.append_nil seen] at later
  exact later.step here

theorem ends (made : alternationOf (sequenceOf items.reverse :: branches).reverse = tree ∧ s = t) :
    Finishes (seenParts branches items) s tree t := by
  obtain ⟨rfl, rfl⟩ := made
  exact ⟨[], by rw [parts_whole, List.append_nil], .refl⟩

theorem item {item : Tree} (later : Finishes (seenParts branches (item :: items)) u tree t)
    (here : s.verbose = false → Follows s u item.parts) : Finishes (seenParts branches items) s tree t :=
  .step (seenParts_cons branches items item ▸ later) here

theorem branch (later : Finishes (seenParts (sequenceOf items.reverse :: branches) []) u tree t)
    (here : s.verbose = false → Follows s u []) : Finishes (seenParts branches items) s tree t :=
  .idle (seenParts_branch branches items ▸ later) here

/-- A repetition takes its sign and maybe a question mark, and has the parts of the item before it. -/
theorem repeated {least : Nat} {most : Option Nat} {after : List Tree} {greedy : Bool} {v : Cursor}
    (last : repeatLast least most items = some after) (accepted : accept '?' u = some (greedy, v))
    (later : Finishes (seenParts branches after) v tree t)
    (here : s.verbose = false → Follows s u []) : Finishes (seenParts branches items) s tree t := by
  rw [seenParts_repeatLast last] at later
  refine later.idle fun plain => (here plain).trans fun strict => ?_
  rcases accept_takes accepted with ⟨-, taken⟩ | ⟨-, rfl, -⟩
  · exact .of_takes strict taken (by decide)
  · exact .refl strict

theorem group {name : Option (List Char)} {changes : FlagChanges} {inner : Tree} {v w x : Cursor}
    {value other : Unit}
    (opened : s.verbose = false → u.verbose = false ∧
      Walk (GroupStart.opening name changes).parts s.rest u.rest)
    (changed : verboseAfter changes u = some (value, v)) (within : Finishes [] v inner w)
    (closed : expect ')' w = some (other, x))
    (later : Finishes (seenParts branches (.group name changes inner :: items))
      { x with verbose := u.verbose } tree t) : Finishes (seenParts branches items) s tree t := by
  obtain ⟨more, parts, follows⟩ := within
  obtain rfl : inner.parts = more := parts
  refine later.item fun plain => ?_
  obtain ⟨strict, walk⟩ := opened plain
  exact .group strict walk changed follows closed

end Finishes

/-- What is read from here on has the parts of the way it takes. -/
theorem readBody_finishes {fuel : Nat} {branches items : List Tree} {tree : Tree}
    (read : readBody fuel branches items s = some (tree, t)) :
    Finishes (seenParts branches items) s tree t := by
  induction fuel generalizing branches items s tree t with
  | zero => simp [readBody] at read
  | succ fuel ih =>
    rw [readBody] at read
    obtain ⟨_, u, settled, read⟩ := bind_eq_some.1 read
    suffices here : Finishes (seenParts branches items) u tree t from here.idle fun plain => by
      obtain rfl := (settle_eq_some plain).1 settled
      exact .refl plain
    obtain ⟨text, _, atRest, read⟩ := bind_eq_some.1 read
    obtain ⟨shape, rfl⟩ := rest_eq_some.1 atRest
    have repeated {least : Nat} {most : Option Nat} {v : Cursor}
        (here : u.verbose = false → Follows u v [])
        (next : (do
          let items ← liftM (repeatLast least most items)
          let _ ← accept '?'
          readBody fuel branches items) v = some (tree, t)) :
        Finishes (seenParts branches items) u tree t := by
      simp only [bind_eq_some, lift_eq_some] at next
      obtain ⟨after, _, ⟨last, rfl⟩, greedy, w, accepted, next⟩ := next
      exact .repeated last accepted (ih next) here
    -- The cases are those of the reader. Only groups, classes and escapes have parts.
    split at read
    · exact .ends (pure_eq_some.1 read)
    · exact .ends (pure_eq_some.1 read)
    · rw [setRest_bind] at read
      exact .branch (ih read) fun plain => .char plain shape (by decide)
    · next rest =>
      rw [setRest_bind] at read
      obtain ⟨start, v, started, read⟩ := bind_eq_some.1 read
      have opened (plain : u.verbose = false) :
          v.verbose = false ∧ Walk start.parts u.rest v.rest :=
        shape ▸ readGroupStart_walk (s := { u with rest := rest }) plain started
      split at read
      · next changes =>
        obtain ⟨_, w, changed, read⟩ := bind_eq_some.1 read
        refine .item (ih read) fun plain => ?_
        obtain ⟨strict, walk⟩ := opened plain
        exact @follows_group u v w [] changes () strict walk changed
      · next name changes =>
        simp only [bind_eq_some, get_eq_some, modify_eq_some] at read
        obtain ⟨_, _, ⟨rfl, rfl⟩, _, w, changed, inner, x, within, _, y, closed, _, _, rfl, read⟩ :=
          read
        exact .group opened changed (ih within) closed (ih read)
    · rw [setRest_bind] at read
      obtain ⟨item, v, read, next⟩ := bind_eq_some.1 read
      exact .item (ih next) fun plain => .brackets plain shape read
    · rw [setRest_bind] at read
      exact repeated (fun plain => .char plain shape (by decide)) read
    · rw [setRest_bind] at read
      exact repeated (fun plain => .char plain shape (by decide)) read
    · rw [setRest_bind] at read
      exact repeated (fun plain => .char plain shape (by decide)) read
    · next rest =>
      rw [setRest_bind] at read
      obtain ⟨⟨least, most⟩, v, counted, read⟩ := bind_eq_some.1 read
      exact repeated (fun plain => .counts plain shape counted) read
    · rw [setRest_bind] at read
      obtain ⟨item, v, read, next⟩ := bind_eq_some.1 read
      exact .item (ih next) fun plain => .escape plain shape read
    · rw [setRest_bind] at read
      exact .item (ih read) fun plain => .char plain shape (by decide)
    · rw [setRest_bind] at read
      exact .item (ih read) fun plain => .char plain shape (by decide)
    · rw [setRest_bind] at read
      exact .item (ih read) fun plain => .char plain shape (by decide)
    · next c rest _ _ notOpening notBracket _ _ _ _ notBackslash _ _ _ =>
      rw [setRest_bind] at read
      have other : c ∉ ['\\', '[', '('] := by
        simp only [List.mem_cons, List.not_mem_nil, or_false, not_or]
        exact ⟨notBackslash, notBracket, notOpening⟩
      exact .item (ih read) fun plain => .char plain shape other

/-- A pattern is walked to its end, unless a group in it turns verbose mode on. -/
theorem read?_follows {text : List Char} {tree : Tree} (read : read? text = some tree) :
    ∃ s t, s.rest = text ∧ t.rest = [] ∧ Follows s t tree.parts := by
  simp only [read?, Option.bind_eq_bind, Option.bind_eq_some_iff] at read
  obtain ⟨⟨found, t⟩, body, read⟩ := read
  dsimp only at read
  split at read
  · next fit =>
    obtain rfl := Option.some.inj read
    rw [Bool.and_eq_true, List.isEmpty_iff] at fit
    obtain ⟨more, parts, follows⟩ := readBody_finishes body
    obtain rfl : found.parts = more := parts
    exact ⟨⟨text, false, []⟩, t, rfl, fit.1, follows rfl⟩
  · contradiction

end EventRouting.Regex
