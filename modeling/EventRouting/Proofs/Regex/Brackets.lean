import EventRouting.Proofs.Regex.Steps

set_option autoImplicit false

namespace EventRouting.Regex

open Reading

/-- The way through a text up to the rest: escapes, and other characters that are allowed. -/
inductive Passage (allowed : Char → Prop) : List Char → List Char → Prop where
  | done {text : List Char} : Passage allowed text text
  | char {c : Char} {text rest : List Char} (noEscape : c ≠ '\\') (known : allowed c)
    (more : Passage allowed text rest) : Passage allowed (c :: text) rest
  | escape {c : Char} {text rest : List Char} (more : Passage allowed text rest) :
    Passage allowed ('\\' :: c :: text) rest

namespace Passage

variable {allowed wider : Char → Prop} {text middle rest : List Char}

theorem trans (first : Passage allowed text middle) (second : Passage allowed middle rest) :
    Passage allowed text rest := by
  induction first with
  | done => exact second
  | char noEscape known more ih => exact .char noEscape known (ih second)
  | escape more ih => exact .escape (ih second)

theorem mono (passage : Passage allowed text rest) (weaken : ∀ c, allowed c → wider c) :
    Passage wider text rest := by
  induction passage with
  | done => exact .done
  | char noEscape known more ih => exact .char noEscape (weaken _ known) ih
  | escape more ih => exact .escape ih

theorem of_chars (chars : ∀ c ∈ text, c ≠ '\\' ∧ allowed c) (rest : List Char) :
    Passage allowed (text ++ rest) rest := by
  induction text with
  | nil => exact .done
  | cons c text ih =>
    rw [List.forall_mem_cons] at chars
    exact .char chars.1.1 chars.1.2 (ih chars.2)

theorem of_mute (mute : IsMuteText text) (rest : List Char) : Passage IsMute (text ++ rest) rest := by
  exact of_chars (fun c inside => ⟨(isMute_iff.1 (mute c inside)).1, mute c inside⟩) rest

theorem of_takes {s t : Cursor} {taken : List Char} (takes : Takes s taken t) (mute : IsMuteText taken) :
    Passage IsMute s.rest t.rest := by
  rw [takes.rest]
  exact of_mute mute t.rest

end Passage

/-- A closing bracket stands in the text of the member. -/
def ClassSet.closes : ClassSet → Bool
  | .literal written => written = ⟨']', .plain⟩
  | .ascii _ _ | .bracketed _ _ => true
  | _ => false

/-- The text of the member ends with an opening parenthesis that stands for itself. -/
def ClassSet.opens : ClassSet → Bool
  | .literal written | .range _ written => written = ⟨'(', .plain⟩
  | _ => false

/-- The members begin with letters up to one of a refused mode. -/
def refusedAhead : List ClassSet → Bool
  | .literal ⟨c, .plain⟩ :: rest => c = 'm' || c = 'x' || c.isAlpha && refusedAhead rest
  | .range ⟨c, .plain⟩ _ :: _ => c = 'm' || c = 'x'
  | _ => false

/-- The members begin with a question mark and such letters. -/
def refusedBehind : List ClassSet → Bool
  | .literal ⟨'?', .plain⟩ :: rest => refusedAhead rest
  | _ => false

/-- Some of the members look like a flag group that turns on a refused mode. -/
def looksRefused : List ClassSet → Bool
  | [] => false
  | member :: rest => member.opens && refusedBehind rest || looksRefused rest

/-- Behind no closing bracket among the members does anything look like such a group. -/
def looksHarmless : List ClassSet → Bool
  | [] => true
  | member :: rest => !(member.closes && looksRefused rest) && looksHarmless rest

theorem looksRefused_cons_eq_false {member : ClassSet} {rest : List ClassSet} :
    looksRefused (member :: rest) = false ↔
      (member.opens = true → refusedBehind rest = false) ∧ looksRefused rest = false := by
  rw [looksRefused, Bool.or_eq_false_iff, Bool.and_eq_false_imp]

theorem looksHarmless_cons {member : ClassSet} {rest : List ClassSet} :
    looksHarmless (member :: rest) = true ↔
      (member.closes = true → looksRefused rest = false) ∧ looksHarmless rest = true := by
  rw [looksHarmless, Bool.and_eq_true, Bool.not_eq_true', Bool.and_eq_false_imp]

/-- What stands between the members of a class. -/
def IsBetween (c : Char) : Prop := c ∈ ['[', '^', '&', '-', '~']

instance (c : Char) : Decidable (IsBetween c) :=
  inferInstanceAs (Decidable (c ∈ ['[', '^', '&', '-', '~']))

theorem IsBetween.no_letter {c : Char} (between : IsBetween c) :
    c ≠ 'm' ∧ c ≠ 'x' ∧ c.isAlpha = false := by
  simp only [IsBetween, List.mem_cons, List.not_mem_nil, or_false] at between
  rcases between with rfl | rfl | rfl | rfl | rfl <;> decide

theorem IsBetween.plain {c : Char} (between : IsBetween c) : c ≠ '\\' ∧ c ≠ '(' ∧ c ≠ ']' := by
  simp only [IsBetween, List.mem_cons, List.not_mem_nil, or_false] at between
  rcases between with rfl | rfl | rfl | rfl | rfl <;> decide

/-- The text of a member: a character that stands for itself, or an escape. -/
inductive Spelled : Tree → List Char → List Char → Prop where
  | plain {c : Char} {text : List Char} (noEscape : c ≠ '\\') :
    Spelled (plainLiteral c) (c :: text) text
  | escape {tree : Tree} {c : Char} {text rest : List Char} (mute : Passage IsMute text rest) :
    Spelled tree ('\\' :: c :: text) rest

/-- The way through the text of members, and what stands between them, up to the rest. -/
inductive Spans : List ClassSet → List Char → List Char → Prop where
  | done {text : List Char} : Spans [] text text
  | between {members : List ClassSet} {c : Char} {text rest : List Char} (known : IsBetween c)
    (more : Spans members text rest) : Spans members (c :: text) rest
  | single {tree : Tree} {member : ClassSet} {members : List ClassSet} {text next rest : List Char}
    (spelled : Spelled tree text next) (made : tree.member? = some member)
    (more : Spans members next rest) : Spans (member :: members) text rest
  | range {first last : Literal} {members : List ClassSet} {text next later rest : List Char}
    (spelled : Spelled (.literal first) text ('-' :: next)) (head : text.head? ≠ some ']')
    (other : Spelled (.literal last) next later) (headLast : next.head? ≠ some ']')
    (more : Spans members later rest) : Spans (.range first last :: members) text rest
  | named {negated : Bool} {name written : List Char} {members : List ClassSet}
    {text rest : List Char} (mute : IsMuteText written) (more : Spans members text rest) :
    Spans (.ascii negated name :: members) ('[' :: (written ++ ']' :: text)) rest
  | closing {negated : Bool} {inner : ClassSet} {members : List ClassSet} {text rest : List Char}
    (more : Spans members text rest) : Spans (.bracketed negated inner :: members) (']' :: text) rest

theorem Spelled.passage {tree : Tree} {text rest : List Char} (spelled : Spelled tree text rest) :
    Passage (fun _ => True) text rest := by
  cases spelled with
  | plain noEscape => exact .char noEscape trivial .done
  | escape mute => exact .escape (mute.mono fun _ _ => trivial)

namespace Spans

variable {front back : List ClassSet} {text middle rest : List Char}

theorem append (first : Spans front text middle) (second : Spans back middle rest) :
    Spans (front ++ back) text rest := by
  induction first with
  | done => exact second
  | between known more ih => exact .between known (ih second)
  | single spelled made more ih => exact .single spelled made (ih second)
  | range spelled head other headLast more ih => exact .range spelled head other headLast (ih second)
  | named mute more ih => exact .named mute (ih second)
  | closing more ih => exact .closing (ih second)

/-- Whatever the members are, escapes are passed as such. -/
theorem passage {members : List ClassSet} (spans : Spans members text rest) :
    Passage (fun _ => True) text rest := by
  induction spans with
  | done => exact .done
  | between known more ih =>
    refine .char ?_ trivial ih
    rintro rfl
    exact absurd known (by decide)
  | single spelled made more ih => exact spelled.passage.trans ih
  | range spelled head other headLast more ih =>
    exact spelled.passage.trans (.char (by decide) trivial (other.passage.trans ih))
  | @named _ _ written _ text _ mute more ih =>
    have name : Passage (fun _ => True) (written ++ ']' :: text) (']' :: text) :=
      (Passage.of_mute mute _).mono fun _ _ => trivial
    exact .char (by decide) trivial (name.trans (.char (by decide) trivial ih))
  | closing more ih => exact .char (by decide) trivial ih

theorem of_plain {c : Char} (noEscape : c ≠ '\\') (text : List Char) :
    Spans [.literal ⟨c, .plain⟩] (c :: text) text :=
  .single (.plain noEscape) rfl .done

/-- The hyphens at the front of a class. -/
theorem of_hyphens {hyphens : List Char} (all : ∀ c ∈ hyphens, c = '-') (text : List Char) :
    Spans (hyphens.map fun c => .literal ⟨c, .plain⟩) (hyphens ++ text) text := by
  induction hyphens with
  | nil => exact .done
  | cons c hyphens ih =>
    rw [List.forall_mem_cons] at all
    obtain ⟨rfl, all⟩ := all
    exact (of_plain (by decide) _).append (ih all)

end Spans

variable {s t : Cursor}

theorem readMember_spelled {tree : Tree} (plain : s.verbose = false)
    (read : readMember s = some (tree, t)) :
    t.verbose = false ∧ (tree.Known → Spelled tree s.rest t.rest) := by
  obtain ⟨c, u, took, read⟩ := bind_eq_some.1 read
  have first := take_takes took
  split at read
  · next escaped =>
    obtain ⟨d, taken, rest, mute⟩ := (readEscape_escapes (first.strict plain) read).takes
    refine ⟨rest.strict (first.strict plain), fun known => ?_⟩
    rw [first.rest, escaped, rest.rest]
    exact .escape (.of_mute (mute known) t.rest)
  · next noEscape =>
    obtain ⟨rfl, rfl⟩ := pure_eq_some.1 read
    rw [first.rest]
    exact ⟨first.strict plain, fun _ => .plain noEscape⟩

theorem member?_eq_some {tree : Tree} {set : ClassSet} (member : tree.member? = some set) :
    set.members = [set] ∧ (set.HasSet → tree.Known) := by
  unfold Tree.member? at member
  split at member
  · obtain rfl := Option.some.inj member
    exact ⟨rfl, fun _ => by simp [Tree.Known, Tree.parts]⟩
  · obtain rfl := Option.some.inj member
    refine ⟨rfl, fun known => ?_⟩
    rw [Tree.Known, Tree.parts, List.forall_mem_singleton]
    exact known
  · obtain rfl := Option.some.inj member
    exact ⟨rfl, fun _ => by simp [Tree.Known, Tree.parts]⟩
  · contradiction

theorem literal?_eq_some {tree : Tree} {written : Literal} (literal : tree.literal? = some written) :
    tree = .literal written := by
  unfold Tree.literal? at literal
  split at literal
  · obtain rfl := Option.some.inj literal
    rfl
  · contradiction

theorem peekPast_eq {text : List Char} {next : Option Char} (plain : s.verbose = false)
    (read : peekPast text s = some (next, t)) : next = text.head? ∧ s = t := by
  simp only [peekPast, bind_eq_some, get_eq_some] at read
  obtain ⟨_, _, ⟨rfl, rfl⟩, read⟩ := read
  simp only [plain, Bool.false_eq_true, if_false, pure_eq_some] at read
  exact ⟨read.1.symm, read.2⟩

/-- One member or a range. -/
theorem readRange_spans {set : ClassSet} (plain : s.verbose = false) (head : s.rest.head? ≠ some ']')
    (read : readRange s = some (set, t)) :
    t.verbose = false ∧ set.members = [set] ∧ (set.HasSet → Spans [set] s.rest t.rest) := by
  simp only [readRange, bind_eq_some] at read
  obtain ⟨first, u, readFirst, _, v, settled, text, w, atRest, read⟩ := read
  obtain ⟨strict, spelled⟩ := readMember_spelled plain readFirst
  obtain rfl := (settle_eq_some strict).1 settled
  obtain ⟨shape, rfl⟩ := rest_eq_some.1 atRest
  have single (member : (liftM first.member? : Reading ClassSet) u = some (set, t)) :
      t.verbose = false ∧ set.members = [set] ∧ (set.HasSet → Spans [set] s.rest t.rest) := by
    obtain ⟨found, rfl⟩ := lift_eq_some.1 member
    obtain ⟨only, known⟩ := member?_eq_some found
    exact ⟨strict, only, fun hasSet => .single (spelled (known hasSet)) found .done⟩
  split at read
  · simp at read
  · next rest =>
    obtain ⟨next, _, peeked, read⟩ := bind_eq_some.1 read
    obtain ⟨rfl, rfl⟩ := peekPast_eq strict peeked
    split at read
    · exact single read
    · next notEnd =>
      simp only [bind_eq_some, setRest_eq_some] at read
      obtain ⟨_, _, rfl, _, u', settled, last, v, readLast, one, _, firstOne, other, _, lastOne,
        made⟩ := read
      obtain rfl := (settle_eq_some (s := { u with rest := rest }) strict).1 settled
      obtain ⟨literalFirst, rfl⟩ := lift_eq_some.1 firstOne
      obtain ⟨literalLast, rfl⟩ := lift_eq_some.1 lastOne
      obtain rfl := literal?_eq_some literalFirst
      obtain rfl := literal?_eq_some literalLast
      obtain ⟨strictLast, spelledLast⟩ :=
        readMember_spelled (s := { u with rest := rest }) strict readLast
      split at made
      · obtain ⟨rfl, rfl⟩ := pure_eq_some.1 made
        have known (written : Literal) : (Tree.literal written).Known := by
          simp [Tree.Known, Tree.parts]
        have headLast : rest.head? ≠ some ']' := by
          simp only [Bool.or_eq_true, decide_eq_true_eq, not_or] at notEnd
          exact notEnd.1
        exact ⟨strictLast, rfl, fun _ =>
          .range (shape ▸ spelled (known one)) head (spelledLast (known other)) headLast .done⟩
      · simp at made
  · exact single read

/-- The front of a class takes a caret, and then hyphens or one closing bracket as members. -/
theorem openClass_spans {negated : Bool} {front : List ClassSet} (plain : s.verbose = false)
    (read : openClass s = some ((negated, front), t)) :
    t.verbose = false ∧ front.reverse.flatMap ClassSet.members = front.reverse ∧
      Spans front.reverse s.rest t.rest := by
  simp only [openClass, bind_eq_some, settle_eq_some plain] at read
  obtain ⟨_, _, rfl, caret, u, accepted, _, v, settled, hyphens, w, hyphened, read⟩ := read
  have opening : u.verbose = false ∧ Spans [] s.rest u.rest := by
    rcases accept_takes accepted with ⟨-, taken⟩ | ⟨-, rfl, -⟩
    · refine ⟨taken.strict plain, ?_⟩
      rw [taken.rest]
      exact .between (c := '^') (by decide) .done
    · exact ⟨plain, .done⟩
  obtain ⟨strict, caret⟩ := opening
  obtain rfl := (settle_eq_some strict).1 settled
  obtain ⟨run, all⟩ := takeWhile_takes strict hyphened
  have dashed : ∀ c ∈ hyphens, c = '-' := fun c inside => of_decide_eq_true (all c inside)
  have strictPast := run.strict strict
  have literals (written : List Char) :
      (written.map fun c => ClassSet.literal ⟨c, .plain⟩).flatMap ClassSet.members =
        written.map fun c => ClassSet.literal ⟨c, .plain⟩ := by
    rw [List.flatMap_map]
    exact List.map_eq_flatMap.symm
  have hyphensOnly (same : hyphens.map (fun c => ClassSet.literal ⟨c, .plain⟩) = front)
      (here : w = t) : t.verbose = false ∧ front.reverse.flatMap ClassSet.members = front.reverse ∧
        Spans front.reverse s.rest t.rest := by
    subst same here
    have turned : hyphens.reverse = hyphens := by
      rw [List.eq_replicate_of_mem dashed, List.reverse_replicate]
    rw [← List.map_reverse, turned]
    refine ⟨strictPast, literals hyphens, caret.append ?_⟩
    rw [run.rest]
    exact .of_hyphens dashed _
  split at read
  · next empty =>
    obtain ⟨found, v, accepted, read⟩ := bind_eq_some.1 read
    rcases accept_takes accepted with ⟨rfl, bracket⟩ | ⟨rfl, rfl, -⟩
    · simp only [if_true, bind_eq_some, settle_eq_some (bracket.strict strictPast), pure_eq_some,
        Prod.mk.injEq] at read
      obtain ⟨_, _, rfl, ⟨-, rfl⟩, rfl⟩ := read
      obtain rfl := List.isEmpty_iff.1 empty
      refine ⟨bracket.strict strictPast, literals [']'], caret.append ?_⟩
      rw [run.rest, List.nil_append, bracket.rest]
      exact .of_plain (by decide) _
    · simp only [Bool.false_eq_true, if_false, pure_eq_some, Prod.mk.injEq] at read
      exact hyphensOnly read.1.2 read.2
  · simp only [pure_eq_some, Prod.mk.injEq] at read
    exact hyphensOnly read.1.2 read.2

theorem asciiClass_mute {name : List Char} {set : CharSet} (found : asciiClass name = some set) :
    IsMuteText name := by
  have listed : name ∈ ["alnum", "alpha", "ascii", "blank", "cntrl", "digit", "graph", "lower", "print",
      "punct", "space", "upper", "word", "xdigit"].map String.toList := by
    unfold asciiClass at found
    split at found <;>
      first | contradiction | (rename_i same; rw [← String.toList_ofList (l := name), same]; simp)
  have mute : ∀ text ∈ ["alnum", "alpha", "ascii", "blank", "cntrl", "digit", "graph", "lower", "print",
      "punct", "space", "upper", "word", "xdigit"].map String.toList, IsMuteText text := by
    decide
  exact mute name listed

/-- A class by name has no bracket in it but the last. -/
theorem namedClass?_eq_some {text rest : List Char} {named : ClassSet}
    (found : namedClass? text = some (named, rest)) : ∃ negated name written,
      named = .ascii negated name ∧ text = written ++ ']' :: rest ∧ IsMuteText written := by
  have body {negated : Bool} {front text : List Char} (mute : IsMuteText front)
      (found : namedClass?.named negated text = some (named, rest)) : ∃ negated name written,
        named = .ascii negated name ∧ front ++ text = written ++ ']' :: rest ∧ IsMuteText written := by
    rw [namedClass?.named, Option.bind_eq_bind, Option.bind_eq_some_iff] at found
    obtain ⟨⟨name, after⟩, cut, found⟩ := found
    dsimp only at found
    split at found
    · contradiction
    · rw [Option.bind_eq_bind, Option.bind_eq_some_iff] at found
      obtain ⟨set, known, same⟩ := found
      obtain ⟨rfl, rfl⟩ := Prod.mk.inj (Option.some.inj same)
      refine ⟨negated, name, front ++ name ++ [':'], rfl, by simp [eq_append_of_cutAt cut], ?_⟩
      rw [isMuteText_append, isMuteText_append]
      exact ⟨⟨mute, asciiClass_mute known⟩, by decide⟩
  unfold namedClass? at found
  split at found
  · exact body (by decide : IsMuteText [':', '^']) found
  · exact body (by decide : IsMuteText [':']) found
  · contradiction

/-- What has been gathered of a class when `members` have been read, last first, since the last operator. -/
def gathered (pending : Option (SetOperator × ClassSet)) (members : List ClassSet) : List ClassSet :=
  pending.toList.flatMap (·.2.members) ++ members.reverse.flatMap ClassSet.members

theorem members_operate (pending : Option (SetOperator × ClassSet)) (members : List ClassSet) :
    (operate pending (unionOf members)).members = gathered pending members := by
  have union : (unionOf members).members = members.reverse.flatMap ClassSet.members := by
    unfold unionOf
    split
    · rfl
    · simp
    · rw [ClassSet.members, ClassSet.allMembers_eq]
  cases pending with
  | none => simp [operate, gathered, union]
  | some pending => simp [operate, gathered, union, ClassSet.members]

theorem gathered_cons (pending : Option (SetOperator × ClassSet)) (member : ClassSet)
    (members : List ClassSet) :
    gathered pending (member :: members) = gathered pending members ++ member.members := by
  simp [gathered]

/-- From here to the closing bracket, the members of the set that are still missing are read. -/
def Gathers (before : List ClassSet) (s : Cursor) (set : ClassSet) (t : Cursor) : Prop :=
  t.verbose = false ∧ ∃ more, set.members = before ++ more ∧
    ((∀ member ∈ more, member.HasSet) → Spans more s.rest (']' :: t.rest))

namespace Gathers

variable {set : ClassSet} {pending : Option (SetOperator × ClassSet)} {members : List ClassSet}
  {u : Cursor} {rest : List Char}

theorem step {before new : List ClassSet} (later : Gathers (before ++ new) u set t)
    (spans : (∀ member ∈ new, member.HasSet) → Spans new s.rest u.rest) : Gathers before s set t := by
  obtain ⟨strict, more, members, rest⟩ := later
  refine ⟨strict, new ++ more, by rw [members, List.append_assoc], fun known => ?_⟩
  rw [List.forall_mem_append] at known
  exact (spans known.1).append (rest known.2)

theorem closed (plain : s.verbose = false) (shape : s.rest = ']' :: rest) :
    Gathers (gathered pending members) s (operate pending (unionOf members)) { s with rest := rest } := by
  refine ⟨plain, [], by rw [members_operate, List.append_nil], fun _ => ?_⟩
  rw [shape]
  exact .done

/-- One more member that is not made of others. -/
theorem member {member : ClassSet} (only : member.members = [member])
    (later : Gathers (gathered pending (member :: members)) u set t)
    (spans : member.HasSet → Spans [member] s.rest u.rest) :
    Gathers (gathered pending members) s set t := by
  rw [gathered_cons, only] at later
  exact later.step fun known => spans (List.forall_mem_singleton.1 known)

theorem of_opened {negated : Bool} {front : List ClassSet} (inner : Gathers (gathered none front) u set t)
    (plain : s.verbose = false) (opened : openClass s = some ((negated, front), u)) :
    t.verbose = false ∧
      ((∀ member ∈ set.members, member.HasSet) → Spans set.members s.rest (']' :: t.rest)) := by
  obtain ⟨strict, more, members, spans⟩ := inner
  obtain ⟨-, same, start⟩ := openClass_spans plain opened
  have all : set.members = front.reverse ++ more := by
    rw [members, gathered, same]
    rfl
  refine ⟨strict, fun known => ?_⟩
  rw [all, List.forall_mem_append] at known
  rw [all]
  exact start.append (spans known.2)

/-- A class within the class, with its own members before it. -/
theorem nested {negated : Bool} {inner : ClassSet} (shape : s.rest = '[' :: rest)
    (spans : (∀ member ∈ inner.members, member.HasSet) → Spans inner.members rest (']' :: u.rest))
    (later : Gathers (gathered pending (.bracketed negated inner :: members)) u set t) :
    Gathers (gathered pending members) s set t := by
  rw [gathered_cons, ClassSet.members] at later
  refine later.step fun known => ?_
  rw [shape]
  exact .between (by decide) ((spans (List.forall_mem_append.1 known).1).append (.closing .done))

/-- An operator takes two characters, and what was gathered stays. -/
theorem operator {c d : Char} {operator : SetOperator} (shape : s.rest = c :: d :: u.rest)
    (known : setOperator? c d = some operator)
    (later : Gathers (gathered (some (operator, operate pending (unionOf members))) []) u set t) :
    Gathers (gathered pending members) s set t := by
  have same : gathered (some (operator, operate pending (unionOf members))) [] =
      gathered pending members := by
    simp [gathered, members_operate]
  rw [same, ← List.append_nil (gathered pending members)] at later
  refine later.step fun _ => ?_
  have between : IsBetween c ∧ IsBetween d := by
    unfold setOperator? at known
    split at known <;> first | contradiction | decide
  rw [shape]
  exact .between between.1 (.between between.2 .done)

end Gathers

theorem readMembers_gathers {fuel : Nat} {pending : Option (SetOperator × ClassSet)}
    {members : List ClassSet} {set : ClassSet} (plain : s.verbose = false)
    (read : readMembers fuel pending members s = some (set, t)) :
    Gathers (gathered pending members) s set t := by
  induction fuel generalizing pending members s set t with
  | zero => simp [readMembers] at read
  | succ fuel ih =>
    simp only [readMembers, bind_eq_some, settle_eq_some plain] at read
    obtain ⟨_, _, rfl, text, _, atRest, read⟩ := read
    obtain ⟨shape, rfl⟩ := rest_eq_some.1 atRest
    split at read
    · simp at read
    · next rest =>
      simp only [bind_eq_some, setRest_eq_some, pure_eq_some] at read
      obtain ⟨_, _, rfl, rfl, rfl⟩ := read
      exact .closed plain shape
    · next rest =>
      cases found : namedClass? rest with
      | some pair =>
        obtain ⟨named, after⟩ := pair
        rw [found, setRest_bind] at read
        obtain ⟨negated, name, written, rfl, rfl, mute⟩ := namedClass?_eq_some found
        refine .member rfl (ih (s := { s with rest := after }) plain read) fun _ => ?_
        rw [shape]
        exact .named mute .done
      | none =>
        rw [found, setRest_bind] at read
        obtain ⟨⟨negated, front⟩, u, opened, read⟩ := bind_eq_some.1 read
        obtain ⟨inner, v, inside, read⟩ := bind_eq_some.1 read
        have strict := (openClass_spans (s := { s with rest := rest }) plain opened).1
        obtain ⟨strictInner, spans⟩ :=
          (ih strict inside).of_opened (s := { s with rest := rest }) plain opened
        exact .nested shape spans (ih strictInner read)
    · next c rest notClose notOpen =>
      cases found : rest.head?.bind (setOperator? c) with
      | some operator =>
        rw [found, setRest_bind] at read
        obtain ⟨d, next, known⟩ := Option.bind_eq_some_iff.1 found
        obtain ⟨after, rfl⟩ := List.head?_eq_some_iff.1 next
        exact .operator (u := { s with rest := after }) shape known (ih plain read)
      | none =>
        rw [found] at read
        obtain ⟨member, u, ranged, read⟩ := bind_eq_some.1 read
        have head : s.rest.head? ≠ some ']' := by
          rw [shape, List.head?_cons]
          simpa using notClose
        obtain ⟨strict, only, spans⟩ := readRange_spans plain head ranged
        exact .member only (ih strict read) spans

/-- A class as a whole, behind its opening bracket. -/
theorem readClass_spans {tree : Tree} (plain : s.verbose = false) (read : readClass s = some (tree, t)) :
    t.verbose = false ∧ ∃ negated set, tree = .bracketed negated set ∧
      ((∀ member ∈ set.members, member.HasSet) → Spans set.members s.rest (']' :: t.rest)) := by
  simp only [readClass, bind_eq_some, rest_eq_some, pure_eq_some] at read
  obtain ⟨⟨negated, front⟩, u, opened, _, _, ⟨rfl, rfl⟩, set, v, inside, rfl, rfl⟩ := read
  have strict := (openClass_spans plain opened).1
  obtain ⟨strictInner, spans⟩ := (readMembers_gathers strict inside).of_opened plain opened
  exact ⟨strictInner, negated, set, rfl, spans⟩

end EventRouting.Regex
