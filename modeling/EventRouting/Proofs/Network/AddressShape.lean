import EventRouting.IpAddress

set_option autoImplicit false

namespace EventRouting.IpAddress

open Text

/-- One to three digits. -/
def IsOctet (text : List Char) : Prop :=
  text ≠ [] ∧ text.length ≤ 3 ∧ ∀ c ∈ text, c.isDigit = true

inductive Dotted : List Char → Prop where
  | dotted {a b c d : List Char} (first : IsOctet a) (second : IsOctet b) (third : IsOctet c)
    (fourth : IsOctet d) : Dotted (a ++ '.' :: (b ++ '.' :: (c ++ '.' :: d)))

def IsColonsChar (c : Char) : Prop := isHexDigit c = true ∨ c = ':' ∨ c = '.'

instance (c : Char) : Decidable (IsColonsChar c) :=
  inferInstanceAs (Decidable (isHexDigit c = true ∨ c = ':' ∨ c = '.'))

inductive Colons : List Char → Prop where
  | colons {first second rest : List Char} (front : ∀ c ∈ first, isHexDigit c = true)
    (back : ∀ c ∈ second, isHexDigit c = true) (chars : ∀ c ∈ rest, IsColonsChar c) :
    Colons (first ++ ':' :: (second ++ ':' :: rest))

theorem isHexDigit_of_isDigit {c : Char} (digit : c.isDigit = true) : isHexDigit c = true := by
  simp [isHexDigit, digit]

theorem isOctet_of_readOctet {text : List Char} {value : Nat} (read : readOctet text = some value) :
    IsOctet text := by
  unfold readOctet at read
  split at read
  · contradiction
  · rename_i shape
    simp only [Bool.or_eq_true, List.isEmpty_iff, decide_eq_true_eq, Bool.not_eq_true',
      List.all_eq_false, not_or, not_exists, not_and, Bool.not_eq_true, Bool.not_eq_false] at shape
    exact ⟨shape.1.1, by omega, fun c inside => by simpa using shape.2 c inside⟩

theorem mapM_eq_some_cons {Piece Value : Type} {read : Piece → Option Value} {pieces : List Piece}
    {value : Value} {values : List Value} (all : pieces.mapM read = some (value :: values)) :
    ∃ piece rest, pieces = piece :: rest ∧ read piece = some value ∧
      rest.mapM read = some values := by
  cases pieces with
  | nil => simp at all
  | cons piece rest =>
    rw [List.mapM_cons] at all
    simp only [Option.bind_eq_bind, Option.bind_eq_some_iff, Option.pure_def, Option.some.injEq,
      List.cons.injEq] at all
    obtain ⟨first, read, others, reads, rfl, rfl⟩ := all
    exact ⟨piece, rest, rfl, read, reads⟩

theorem mapM_eq_some_nil {Piece Value : Type} {read : Piece → Option Value} {pieces : List Piece}
    (all : pieces.mapM read = some []) : pieces = [] := by
  cases pieces with
  | nil => rfl
  | cons piece rest =>
    rw [List.mapM_cons] at all
    simp [Option.bind_eq_some_iff] at all

theorem mapM_eq_some_forall {Piece Value : Type} {read : Piece → Option Value} {pieces : List Piece}
    {values : List Value} (all : pieces.mapM read = some values) :
    values.length = pieces.length ∧ ∀ piece ∈ pieces, ∃ value, read piece = some value := by
  induction pieces generalizing values with
  | nil => simp at all; simp [← all]
  | cons piece rest ih =>
    cases values with
    | nil => exact absurd (mapM_eq_some_nil all) (by simp)
    | cons value values =>
      obtain ⟨first, others, shape, read, reads⟩ := mapM_eq_some_cons all
      obtain ⟨rfl, rfl⟩ := List.cons.inj shape
      obtain ⟨length, known⟩ := ih reads
      refine ⟨by simp [length], ?_⟩
      intro other inside
      rcases List.mem_cons.1 inside with rfl | inside
      · exact ⟨value, read⟩
      · exact known other inside

theorem dotted_of_readDotted {text : List Char} {number : Nat} (read : readDotted text = some number) :
    Dotted text := by
  unfold readDotted at read
  split at read
  · rename_i w x y z octets
    obtain ⟨a, rest, shape, readA, octets⟩ := mapM_eq_some_cons octets
    obtain ⟨b, rest, rfl, readB, octets⟩ := mapM_eq_some_cons octets
    obtain ⟨c, rest, rfl, readC, octets⟩ := mapM_eq_some_cons octets
    obtain ⟨d, rest, rfl, readD, octets⟩ := mapM_eq_some_cons octets
    rw [mapM_eq_some_nil octets] at shape
    have joined := joinWith_splitAt '.' text
    rw [shape] at joined
    rw [← joined]
    simpa [joinWith] using Dotted.dotted (isOctet_of_readOctet readA) (isOctet_of_readOctet readB)
      (isOctet_of_readOctet readC) (isOctet_of_readOctet readD)
  · contradiction

theorem Dotted.chars {text : List Char} (dotted : Dotted text) :
    ∀ c ∈ text, c.isDigit = true ∨ c = '.' := by
  obtain ⟨⟨-, -, first⟩, ⟨-, -, second⟩, ⟨-, -, third⟩, ⟨-, -, fourth⟩⟩ := dotted
  intro c inside
  simp only [List.mem_append, List.mem_cons] at inside
  rcases inside with inside | rfl | inside | rfl | inside | rfl | inside
  · exact Or.inl (first c inside)
  · exact Or.inr rfl
  · exact Or.inl (second c inside)
  · exact Or.inr rfl
  · exact Or.inl (third c inside)
  · exact Or.inr rfl
  · exact Or.inl (fourth c inside)

theorem Colons.chars {text : List Char} (colons : Colons text) : ∀ c ∈ text, IsColonsChar c := by
  obtain ⟨front, back, chars⟩ := colons
  intro c inside
  simp only [List.mem_append, List.mem_cons] at inside
  rcases inside with inside | rfl | inside | rfl | inside
  · exact Or.inl (front c inside)
  · exact Or.inr (Or.inl rfl)
  · exact Or.inl (back c inside)
  · exact Or.inr (Or.inl rfl)
  · exact chars c inside

theorem hex_of_readGroup {text : List Char} {group : Nat} (read : readGroup text = some group) :
    ∀ c ∈ text, isHexDigit c = true := by
  unfold readGroup at read
  split at read
  · contradiction
  · rename_i shape
    simp only [Bool.or_eq_true, not_or, Bool.not_eq_true', Bool.not_eq_false, List.all_eq_true] at shape
    exact shape.2

/-- The pieces of a list of groups are groups, but for the last, which may be dotted. -/
theorem chars_of_readGroups {pieces : List (List Char)} {groups : List Nat}
    (read : readGroups pieces = some groups) :
    ∀ c ∈ joinWith [':'] pieces, IsColonsChar c := by
  induction pieces generalizing groups with
  | nil => simp [joinWith]
  | cons piece rest ih =>
    cases rest with
    | nil =>
      rw [readGroups] at read
      intro c inside
      cases group : readGroup piece with
      | some value => exact Or.inl (hex_of_readGroup group c inside)
      | none =>
        rw [group] at read
        simp only [Option.map_eq_some_iff] at read
        obtain ⟨number, dotted, -⟩ := read
        rcases (dotted_of_readDotted dotted).chars c inside with digit | rfl
        · exact Or.inl (isHexDigit_of_isDigit digit)
        · exact Or.inr (Or.inr rfl)
    | cons next more =>
      rw [readGroups] at read
      · simp only [Option.bind_eq_bind, Option.bind_eq_some_iff] at read
        obtain ⟨group, readFirst, others, readRest, -⟩ := read
        intro c inside
        rw [joinWith, List.append_assoc, List.mem_append, List.singleton_append, List.mem_cons] at inside
        · rcases inside with inside | rfl | inside
          · exact Or.inl (hex_of_readGroup readFirst c inside)
          · exact Or.inr (Or.inl rfl)
          · exact ih readRest c inside
        · simp
      · simp

theorem splitGap_eq_some {text before after : List Char} (gap : splitGap text = some (before, after)) :
    text = before ++ ':' :: ':' :: after := by
  induction text using splitGap.induct generalizing before with
  | case1 rest =>
    rw [splitGap.eq_1, Option.some.injEq, Prod.mk.injEq] at gap
    obtain ⟨rfl, rfl⟩ := gap
    rfl
  | case2 c rest other ih =>
    rw [splitGap.eq_2 _ _ other, Option.map_eq_some_iff] at gap
    obtain ⟨halves, found, same⟩ := gap
    obtain ⟨rfl, rfl⟩ := Prod.mk.inj same
    rw [ih found]
    rfl
  | case3 => rw [splitGap.eq_3] at gap; contradiction

/-- Hexadecimal pieces with colons between them, and two more colons, have the shape. -/
theorem Colons.of_gap (pieces : List (List Char)) {after : List Char}
    (hex : ∀ piece ∈ pieces, ∀ c ∈ piece, isHexDigit c = true)
    (chars : ∀ c ∈ after, IsColonsChar c) :
    Colons (joinWith [':'] pieces ++ ':' :: ':' :: after) := by
  cases pieces with
  | nil => exact @Colons.colons [] [] _ (by simp) (by simp) chars
  | cons first rest =>
    cases rest with
    | nil => exact @Colons.colons _ [] _ (hex first List.mem_cons_self) (by simp) chars
    | cons second more =>
      have hexFirst := hex first List.mem_cons_self
      have hexSecond := hex second (List.mem_cons_of_mem _ List.mem_cons_self)
      cases more with
      | nil =>
        have shape := @Colons.colons _ _ (':' :: after) hexFirst hexSecond (by
          simpa [IsColonsChar] using chars)
        simpa [joinWith] using shape
      | cons third others =>
        have shape := @Colons.colons _ _ (joinWith [':'] (third :: others) ++ ':' :: ':' :: after)
          hexFirst hexSecond (by
            intro c inside
            rcases List.mem_append.1 inside with inside | inside
            · rcases mem_joinWith inside with rfl | ⟨piece, known, inside⟩
              · exact Or.inr (Or.inl rfl)
              · refine Or.inl (hex piece ?_ c inside)
                exact List.mem_cons_of_mem _ (List.mem_cons_of_mem _ known)
            · simp only [List.mem_cons] at inside
              rcases inside with rfl | rfl | inside
              · exact Or.inr (Or.inl rfl)
              · exact Or.inr (Or.inl rfl)
              · exact chars c inside)
        simpa [joinWith] using shape

theorem chars_of_readSide {text : List Char} {groups : List Nat} (read : readSide text = some groups) :
    ∀ c ∈ text, IsColonsChar c := by
  unfold readSide at read
  split at read
  · rename_i empty
    rw [List.isEmpty_iff] at empty
    simp [empty]
  · rw [← joinWith_splitAt ':' text]
    exact chars_of_readGroups read

theorem readGroups_length_le {pieces : List (List Char)} {groups : List Nat}
    (read : readGroups pieces = some groups) : groups.length ≤ pieces.length + 1 := by
  induction pieces generalizing groups with
  | nil =>
    rw [readGroups, Option.some.injEq] at read
    simp [← read]
  | cons piece rest ih =>
    cases rest with
    | nil =>
      rw [readGroups] at read
      cases group : readGroup piece with
      | some value =>
        rw [group, Option.some.injEq] at read
        simp [← read]
      | none =>
        rw [group] at read
        simp only [Option.map_eq_some_iff] at read
        obtain ⟨number, -, rfl⟩ := read
        simp
    | cons next more =>
      rw [readGroups] at read
      · simp only [Option.bind_eq_bind, Option.bind_eq_some_iff, Option.some.injEq] at read
        obtain ⟨group, -, others, readRest, rfl⟩ := read
        simpa using ih readRest
      · simp

theorem hex_of_readGroups {piece next : List Char} {rest : List (List Char)} {groups : List Nat}
    (read : readGroups (piece :: next :: rest) = some groups) :
    (∀ c ∈ piece, isHexDigit c = true) ∧ ∃ others, readGroups (next :: rest) = some others := by
  rw [readGroups] at read
  · simp only [Option.bind_eq_bind, Option.bind_eq_some_iff] at read
    obtain ⟨group, readFirst, others, readRest, -⟩ := read
    exact ⟨hex_of_readGroup readFirst, others, readRest⟩
  · simp

theorem colons_of_readColons {text : List Char} {groups : List Nat}
    (read : readColons text = some groups) : Colons text := by
  unfold readColons at read
  split at read
  · rename_i before after gap
    rw [splitGap_eq_some gap]
    by_cases empty : before.isEmpty
    · rw [if_pos empty] at read
      simp only [Option.bind_eq_bind, Option.bind_some, Option.bind_eq_some_iff] at read
      obtain ⟨back, readBack, -⟩ := read
      rw [List.isEmpty_iff.1 empty]
      exact Colons.of_gap [] (by simp) (chars_of_readSide readBack)
    · rw [if_neg empty] at read
      simp only [Option.bind_eq_bind, Option.bind_eq_some_iff] at read
      obtain ⟨front, readFront, back, readBack, -⟩ := read
      rw [← joinWith_splitAt ':' before]
      refine Colons.of_gap _ ?_ (chars_of_readSide readBack)
      intro piece inside
      obtain ⟨group, readPiece⟩ := (mapM_eq_some_forall readFront).2 piece inside
      exact hex_of_readGroup readPiece
  · split at read
    · rename_i found readAll
      have length := readGroups_length_le readAll
      split at read
      · rename_i eight
        have joined := joinWith_splitAt ':' text
        obtain ⟨first, second, third, rest, pieces⟩ : ∃ first second third rest,
            splitAt ':' text = first :: second :: third :: rest := by
          match splitAt ':' text, length with
          | first :: second :: third :: rest, _ => exact ⟨first, second, third, rest, rfl⟩
          | [_, _], short => simp at short; omega
          | [_], short => simp at short; omega
          | [], short => simp at short; omega
        rw [pieces] at readAll joined
        obtain ⟨hexFirst, others, readRest⟩ := hex_of_readGroups readAll
        obtain ⟨hexSecond, more, readMore⟩ := hex_of_readGroups readRest
        rw [← joined]
        simpa [joinWith] using Colons.colons hexFirst hexSecond (chars_of_readGroups readMore)
      · contradiction
    · contradiction

/-- Whatever is read as an address has one of the two shapes. -/
theorem shape_of_read? {text : List Char} {address : IpAddress} (read : read? text = some address) :
    Dotted text ∨ Colons text := by
  unfold read? at read
  split at read
  · rename_i number dotted
    exact Or.inl (dotted_of_readDotted dotted)
  · rw [Option.bind_eq_some_iff] at read
    obtain ⟨groups, colons, -⟩ := read
    exact Or.inr (colons_of_readColons colons)

theorem chars_of_read? {text : List Char} {address : IpAddress} (read : read? text = some address) :
    text ≠ [] ∧ ∀ c ∈ text, IsColonsChar c := by
  rcases shape_of_read? read with dotted | colons
  · constructor
    · obtain ⟨⟩ := dotted
      simp
    · intro c inside
      rcases dotted.chars c inside with digit | rfl
      · exact Or.inl (isHexDigit_of_isDigit digit)
      · exact Or.inr (Or.inr rfl)
  · refine ⟨?_, colons.chars⟩
    obtain ⟨⟩ := colons
    simp

end EventRouting.IpAddress
