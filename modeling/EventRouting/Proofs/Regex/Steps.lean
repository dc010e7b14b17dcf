import EventRouting.Proofs.Regex.Names
import EventRouting.Proofs.Regex.Parts
import EventRouting.Regex.Reader

set_option autoImplicit false

namespace EventRouting.Regex

namespace Reading

variable {α β : Type} {s t : Cursor}

@[simp] theorem bind_eq_some {read : Reading α} {next : α → Reading β} {value : β} :
    (read >>= next) s = some (value, t) ↔ ∃ first u, read s = some (first, u) ∧
      next first u = some (value, t) := by
  simp [bind, StateT.bind, Option.bind_eq_some_iff]

@[simp] theorem pure_eq_some {value other : α} :
    (pure value : Reading α) s = some (other, t) ↔ value = other ∧ s = t := by
  change some (value, s) = some (other, t) ↔ _
  rw [Option.some.injEq, Prod.mk.injEq]

@[simp] theorem map_eq_some {f : α → β} {read : Reading α} {value : β} :
    (f <$> read) s = some (value, t) ↔ ∃ first, read s = some (first, t) ∧ f first = value := by
  simp [Functor.map, StateT.map, Option.bind_eq_some_iff]

@[simp] theorem failure_ne_some {value : α} : (failure : Reading α) s = some (value, t) ↔ False := by
  simp [failure, StateT.failure]

@[simp] theorem lift_eq_some {found : Option α} {value : α} :
    (liftM found : Reading α) s = some (value, t) ↔ found = some value ∧ s = t := by
  cases found <;> simp [liftM, monadLift, MonadLift.monadLift, StateT.lift]

@[simp] theorem get_eq_some {before : Cursor} :
    (get : Reading Cursor) s = some (before, t) ↔ s = before ∧ s = t := by
  simp [get, getThe, MonadStateOf.get, StateT.get, pure]

@[simp] theorem set_eq_some {after : Cursor} {value : PUnit} :
    (set after : Reading PUnit) s = some (value, t) ↔ after = t := by
  change some (PUnit.unit, after) = some (value, t) ↔ _
  rw [Option.some.injEq, Prod.mk.injEq, eq_self, true_and]

@[simp] theorem modify_eq_some {next : Cursor → Cursor} {value : PUnit} :
    (modify next : Reading PUnit) s = some (value, t) ↔ next s = t := by
  change some (PUnit.unit, next s) = some (value, t) ↔ _
  rw [Option.some.injEq, Prod.mk.injEq, eq_self, true_and]

@[simp] theorem rest_eq_some {text : List Char} : rest s = some (text, t) ↔ s.rest = text ∧ s = t := by
  simp only [rest, bind_eq_some, get_eq_some, pure_eq_some]
  constructor
  · rintro ⟨_, _, ⟨rfl, rfl⟩, rfl, rfl⟩
    exact ⟨rfl, rfl⟩
  · rintro ⟨rfl, rfl⟩
    exact ⟨_, _, ⟨rfl, rfl⟩, rfl, rfl⟩

@[simp] theorem setRest_eq_some {text : List Char} {value : Unit} :
    setRest text s = some (value, t) ↔ { s with rest := text } = t := by
  simp [setRest]

theorem setRest_bind {text : List Char} {next : Unit → Reading β} {value : β} :
    (setRest text >>= next) s = some (value, t) ↔ next () { s with rest := text } = some (value, t) := by
  simp only [bind_eq_some, setRest_eq_some]
  constructor
  · rintro ⟨_, _, rfl, read⟩
    exact read
  · exact fun read => ⟨_, _, rfl, read⟩

/-- The cursor has moved past what was taken. -/
structure Takes (s : Cursor) (taken : List Char) (t : Cursor) : Prop where
  rest : s.rest = taken ++ t.rest
  verbose : t.verbose = s.verbose

namespace Takes

variable {u : Cursor} {front back : List Char}

theorem refl (s : Cursor) : Takes s [] s := ⟨rfl, rfl⟩

theorem trans (first : Takes s front t) (second : Takes t back u) : Takes s (front ++ back) u where
  rest := by rw [first.rest, second.rest, List.append_assoc]
  verbose := second.verbose.trans first.verbose

theorem strict (taken : Takes s front t) (plain : s.verbose = false) : t.verbose = false :=
  taken.verbose.trans plain

end Takes

theorem settle_eq_some (plain : s.verbose = false) {value : Unit} :
    settle s = some (value, t) ↔ s = t := by
  simp [settle, plain]

theorem take_takes {c : Char} (read : take s = some (c, t)) : Takes s [c] t := by
  simp only [take, bind_eq_some, rest_eq_some] at read
  obtain ⟨text, u, ⟨shape, rfl⟩, read⟩ := read
  cases text with
  | nil => simp at read
  | cons d rest =>
    simp only [bind_eq_some, setRest_eq_some, pure_eq_some] at read
    obtain ⟨_, _, rfl, rfl, rfl⟩ := read
    exact ⟨shape, rfl⟩

/-- What stands next is taken or left. -/
theorem accept_takes {c : Char} {found : Bool} (read : accept c s = some (found, t)) :
    (found = true ∧ Takes s [c] t) ∨ (found = false ∧ s = t ∧ s.rest.head? ≠ some c) := by
  simp only [accept, bind_eq_some, rest_eq_some] at read
  obtain ⟨text, u, ⟨shape, rfl⟩, read⟩ := read
  cases text with
  | nil =>
    obtain ⟨rfl, rfl⟩ := pure_eq_some.1 read
    exact .inr ⟨rfl, rfl, by simp [shape]⟩
  | cons d rest =>
    dsimp only at read
    split at read
    · next same =>
      simp only [bind_eq_some, setRest_eq_some, pure_eq_some] at read
      obtain ⟨_, _, rfl, rfl, rfl⟩ := read
      exact .inl ⟨rfl, by rw [shape, same]; rfl, rfl⟩
    · next other =>
      obtain ⟨rfl, rfl⟩ := pure_eq_some.1 read
      exact .inr ⟨rfl, rfl, by simpa [shape] using other⟩

theorem expect_takes {c : Char} {value : Unit} (read : expect c s = some (value, t)) : Takes s [c] t := by
  simp only [expect, bind_eq_some] at read
  obtain ⟨found, u, accepted, read⟩ := read
  rcases accept_takes accepted with ⟨rfl, taken⟩ | ⟨rfl, -, -⟩
  · simp only [if_true, pure_eq_some] at read
    obtain ⟨-, rfl⟩ := read
    exact taken
  · simp at read

theorem takeWhile_go_takes {kind : Char → Bool} {fuel : Nat} {found : List Char}
    (plain : s.verbose = false)
    (read : takeWhile.go kind fuel s = some (found, t)) :
    Takes s found t ∧ ∀ c ∈ found, kind c = true := by
  induction fuel generalizing s found with
  | zero =>
    obtain ⟨rfl, rfl⟩ := pure_eq_some.1 read
    exact ⟨.refl s, by simp⟩
  | succ fuel ih =>
    simp only [takeWhile.go, bind_eq_some, rest_eq_some] at read
    obtain ⟨text, u, ⟨shape, rfl⟩, read⟩ := read
    cases text with
    | nil =>
      obtain ⟨rfl, rfl⟩ := pure_eq_some.1 read
      exact ⟨.refl s, by simp⟩
    | cons c rest =>
      dsimp only at read
      split at read
      · next known =>
        simp only [bind_eq_some, setRest_eq_some, pure_eq_some] at read
        obtain ⟨_, u, rfl, _, v, settled, more, w, read, rfl, rfl⟩ := read
        obtain rfl := (settle_eq_some (s := { s with rest := rest }) plain).1 settled
        obtain ⟨taken, all⟩ := ih (s := { s with rest := rest }) plain read
        refine ⟨⟨?_, taken.verbose⟩, ?_⟩
        · rw [shape, List.cons_append]
          exact congrArg (c :: ·) taken.rest
        · rintro d (_ | ⟨_, inside⟩)
          · exact known
          · exact all d inside
      · obtain ⟨rfl, rfl⟩ := pure_eq_some.1 read
        exact ⟨.refl s, by simp⟩

theorem takeWhile_takes {kind : Char → Bool} {found : List Char} (plain : s.verbose = false)
    (read : takeWhile kind s = some (found, t)) : Takes s found t ∧ ∀ c ∈ found, kind c = true := by
  simp only [takeWhile, bind_eq_some, rest_eq_some] at read
  obtain ⟨text, u, ⟨-, rfl⟩, read⟩ := read
  exact takeWhile_go_takes plain read

end Reading

open Reading

variable {s t : Cursor}

/-- Only hexadecimal digits make a number. -/
theorem isMute_of_hexNumber? {digits : List Char} {value : Nat} (number : hexNumber? digits = some value) :
    ∀ c ∈ digits, IsMute c := by
  suffices all : ∀ before,
    (digits.foldlM (fun value c => (hexValue? c).map (16 * value + ·)) before).isSome →
      ∀ c ∈ digits, IsMute c from all 0 (Option.isSome_of_eq_some number)
  clear number
  induction digits with
  | nil => simp
  | cons d rest ih =>
    intro before some
    rw [List.foldlM_cons] at some
    cases digit : hexValue? d with
    | none => simp [digit] at some
    | some value =>
      rw [digit] at some
      rintro c (_ | ⟨_, inside⟩)
      · exact @isMute_of_kind d (fun c => (hexValue? c).isSome) (by simp [digit]) (by decide)
      · exact ih _ some c inside

theorem takeHex_takes {count : Nat} {digits : List Char} (plain : s.verbose = false)
    (read : takeHex count s = some (digits, t)) : Takes s digits t := by
  induction count generalizing s digits with
  | zero =>
    obtain ⟨rfl, rfl⟩ := pure_eq_some.1 read
    exact .refl s
  | succ count ih =>
    simp only [takeHex, bind_eq_some, settle_eq_some plain, pure_eq_some] at read
    obtain ⟨_, _, rfl, c, u, took, more, v, read, rfl, rfl⟩ := read
    have first := take_takes took
    exact first.trans (ih (first.strict plain) read)

theorem isMuteText_braced {text : List Char} (mute : IsMuteText text) :
    IsMuteText ('\x7b' :: text ++ ['\x7d']) := by
  rw [List.cons_append, isMuteText_cons, isMuteText_append]
  exact ⟨by decide, mute, by decide⟩

/-- Around the digits stand braces or nothing. -/
theorem readCodePoint_takes {width : Nat} {found : Char × LiteralForm} (plain : s.verbose = false)
    (read : readCodePoint width s = some (found, t)) : ∃ taken, Takes s taken t ∧ IsMuteText taken := by
  simp only [readCodePoint, bind_eq_some, settle_eq_some plain] at read
  obtain ⟨_, _, rfl, braced, u, accepted, read⟩ := read
  rcases accept_takes accepted with ⟨rfl, opened⟩ | ⟨rfl, rfl, -⟩
  · have strict := opened.strict plain
    simp only [if_true, bind_eq_some, settle_eq_some strict] at read
    obtain ⟨_, _, rfl, digits, v, took, _, w, closed, read⟩ := read
    split at read
    · simp at read
    · simp only [bind_eq_some, lift_eq_some, pure_eq_some, Option.bind_eq_some_iff] at read
      obtain ⟨point, _, ⟨⟨value, number, -⟩, rfl⟩, -, rfl⟩ := read
      refine ⟨_, (opened.trans (takeWhile_takes strict took).1).trans (expect_takes closed), ?_⟩
      exact isMuteText_braced (isMute_of_hexNumber? number)
  · simp only [Bool.false_eq_true, if_false, bind_eq_some, lift_eq_some, pure_eq_some,
      Option.bind_eq_some_iff] at read
    obtain ⟨digits, v, took, point, _, ⟨⟨value, number, -⟩, rfl⟩, -, rfl⟩ := read
    exact ⟨digits, takeHex_takes plain took, isMute_of_hexNumber? number⟩

theorem readUnicodeName_takes {name : UnicodeName} (plain : s.verbose = false)
    (read : readUnicodeName s = some (name, t)) :
    ∃ taken, Takes s taken t ∧ (name.set?.isSome → IsMuteText taken) := by
  simp only [readUnicodeName, bind_eq_some, settle_eq_some plain] at read
  obtain ⟨_, _, rfl, c, u, took, read⟩ := read
  have first := take_takes took
  have strict := first.strict plain
  split at read
  · next braced =>
    simp only [bind_eq_some, settle_eq_some strict, pure_eq_some] at read
    obtain ⟨_, _, rfl, text, v, inside, _, w, closed, rfl, rfl⟩ := read
    refine ⟨_, (first.trans (takeWhile_takes strict inside).1).trans (expect_takes closed),
      fun known => ?_⟩
    rw [braced]
    exact isMuteText_braced (isMuteText_of_unicodeName known)
  split at read
  · simp at read
  · obtain ⟨rfl, rfl⟩ := pure_eq_some.1 read
    exact ⟨_, first, isMuteText_of_setNamed⟩

theorem readBoundary_takes {kind : LookKind} (plain : s.verbose = false)
    (read : readBoundary s = some (kind, t)) :
    ∃ taken, Takes s taken t ∧ IsMuteText taken := by
  simp only [readBoundary, bind_eq_some, get_eq_some] at read
  obtain ⟨_, _, ⟨rfl, rfl⟩, braced, u, accepted, read⟩ := read
  rcases accept_takes accepted with ⟨rfl, opened⟩ | ⟨rfl, rfl, -⟩
  · have strict := opened.strict plain
    simp only [if_true, bind_eq_some, settle_eq_some strict, rest_eq_some] at read
    obtain ⟨_, _, rfl, text, _, ⟨shape, rfl⟩, read⟩ := read
    split at read
    · simp at read
    split at read
    · simp only [bind_eq_some, lift_eq_some] at read
      obtain ⟨name, v, took, _, w, closed, -, rfl⟩ := read
      obtain ⟨inside, letters⟩ := takeWhile_takes strict took
      refine ⟨_, (opened.trans inside).trans (expect_takes closed),
        isMuteText_braced fun c member => ?_⟩
      exact isMute_of_kind (letters c member) (by decide)
    · simp only [bind_eq_some, set_eq_some, pure_eq_some] at read
      obtain ⟨_, _, rfl, -, rfl⟩ := read
      exact ⟨[], .refl s, by simp⟩
  · simp only [Bool.false_eq_true, if_false, pure_eq_some] at read
    obtain ⟨-, rfl⟩ := read
    exact ⟨[], .refl s, by simp⟩

/-- What follows a backslash: behind the first character, an escape takes nothing that matters, and it has
no part but a name. -/
structure Escapes (s : Cursor) (tree : Tree) (t : Cursor) : Prop where
  takes : ∃ c taken, Takes s (c :: taken) t ∧ (tree.Known → IsMuteText taken)
  names : ∀ part ∈ tree.parts, ∃ name, part = .unicode name

theorem readEscape_escapes {tree : Tree} (plain : s.verbose = false)
    (read : readEscape s = some (tree, t)) :
    Escapes s tree t := by
  simp only [readEscape, bind_eq_some] at read
  obtain ⟨c, u, took, read⟩ := read
  have first := take_takes took
  have strict := first.strict plain
  have alone {made : Tree} (none : made.parts = []) (same : made = tree ∧ u = t) : Escapes s tree t := by
    obtain ⟨rfl, rfl⟩ := same
    exact ⟨⟨c, [], first, by simp⟩, by simp [none]⟩
  have coded {width : Nat} {found : Char × LiteralForm} {v : Cursor} {made : Tree} (none : made.parts = [])
      (point : readCodePoint width u = some (found, v)) (same : made = tree ∧ v = t) :
        Escapes s tree t := by
    obtain ⟨rfl, rfl⟩ := same
    obtain ⟨taken, rest, mute⟩ := readCodePoint_takes strict point
    exact ⟨⟨c, taken, first.trans rest, fun _ => mute⟩, by simp [none]⟩
  have named {negated : Bool} {name : UnicodeName} {v : Cursor}
      (called : readUnicodeName u = some (name, v))
      (same : Tree.unicode negated name = tree ∧ v = t) : Escapes s tree t := by
    obtain ⟨rfl, rfl⟩ := same
    obtain ⟨taken, rest, mute⟩ := readUnicodeName_takes strict called
    refine ⟨⟨c, taken, first.trans rest, fun known => mute ?_⟩, by simp [Tree.parts]⟩
    exact known (.unicode name) List.mem_cons_self
  split at read
  · obtain ⟨found, v, point, read⟩ := bind_eq_some.1 read
    exact coded rfl point (pure_eq_some.1 read)
  · obtain ⟨found, v, point, read⟩ := bind_eq_some.1 read
    exact coded rfl point (pure_eq_some.1 read)
  · obtain ⟨found, v, point, read⟩ := bind_eq_some.1 read
    exact coded rfl point (pure_eq_some.1 read)
  · obtain ⟨found, v, name, read⟩ := bind_eq_some.1 read
    exact named name (pure_eq_some.1 read)
  · obtain ⟨found, v, name, read⟩ := bind_eq_some.1 read
    exact named name (pure_eq_some.1 read)
  all_goals try exact alone rfl (pure_eq_some.1 read)
  · obtain ⟨kind, v, boundary, read⟩ := bind_eq_some.1 read
    obtain ⟨taken, rest, mute⟩ := readBoundary_takes strict boundary
    obtain ⟨rfl, rfl⟩ := pure_eq_some.1 read
    exact ⟨⟨_, taken, first.trans rest, fun _ => mute⟩, by simp [Tree.parts]⟩
  · split at read
    · exact alone rfl (pure_eq_some.1 read)
    · simp at read

end EventRouting.Regex
