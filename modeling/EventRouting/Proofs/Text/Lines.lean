import EventRouting.Text.Blank
import EventRouting.Text.Lines
import EventRouting.Text.Split

set_option autoImplicit false

namespace EventRouting.Text

theorem toList_loop (bytes : ByteArray) (position : Nat) (done : List UInt8) :
    ByteArray.toList.loop bytes position done = done.reverse ++ bytes.data.toList.drop position := by
  fun_induction ByteArray.toList.loop bytes position done with
  | case1 position done below ih =>
    have inside : position < bytes.data.toList.length := by simpa using below
    have here : bytes.get! position = bytes.data.toList[position] := by
      change bytes.data[position]! = _
      rw [getElem!_pos bytes.data position below, Array.getElem_toList]
    rw [ih, List.drop_eq_getElem_cons inside, List.reverse_cons, List.append_assoc, here,
      List.singleton_append]
  | case2 position done outside =>
    rw [List.drop_eq_nil_of_le (by simpa using Nat.le_of_not_lt outside), List.append_nil]

/-- The bytes of some characters in UTF-8. -/
def encoded (text : List Char) : List UInt8 := text.flatMap String.utf8EncodeChar

theorem toList_toUTF8 (text : String) : text.toUTF8.toList = encoded text.toList := by
  have bytes : text.toUTF8 = text.toList.utf8Encode := by
    rw [String.toUTF8, ← String.toByteArray_ofList, String.ofList_toList]
  rw [bytes, ByteArray.toList, toList_loop, List.utf8Encode, List.data_toByteArray]
  rfl

theorem fromUTF8?_encoded (line : List Char) :
    String.fromUTF8? ⟨(encoded line).toArray⟩ = some (String.ofList line) := by
  have bytes : (⟨(encoded line).toArray⟩ : ByteArray) = line.utf8Encode :=
    ByteArray.ext List.data_toByteArray.symm
  rw [bytes, String.fromUTF8?, dif_pos ByteArray.isValidUTF8_utf8Encode]
  rfl

theorem toNat_of_ascii {c : Char} {byte : UInt8} (inside : byte ∈ String.utf8EncodeChar c)
    (ascii : byte.toNat < 128) : c.toNat = byte.toNat := by
  change c.val.toNat = byte.toNat
  have value := List.mem_map_of_mem (f := UInt8.toNat) inside
  simp only [String.utf8EncodeChar] at value
  repeat' split at value
  all_goals
    simp only [List.map_cons, List.map_nil, List.mem_cons, List.not_mem_nil, or_false,
      UInt8.toNat_ofNat'] at value
    omega

theorem splitLines_skip {α : Type} [BEq α] [LawfulBEq α] {lineFeed : α} (carriageReturn : α)
    {symbols : List α} (clean : lineFeed ∉ symbols) (before rest : List α) :
    splitLines lineFeed carriageReturn before (symbols ++ rest) =
      splitLines lineFeed carriageReturn (symbols.reverse ++ before) rest := by
  induction symbols generalizing before with
  | nil => rfl
  | cons symbol symbols ih =>
    simp only [List.mem_cons, not_or] at clean
    have other : (symbol == lineFeed) = false := beq_false_of_ne (Ne.symm clean.1)
    rw [List.cons_append, splitLines, other, if_neg Bool.false_ne_true, ih clean.2, List.reverse_cons,
      List.append_assoc, List.singleton_append]

theorem encoded_append (before after : List Char) :
    encoded (before ++ after) = encoded before ++ encoded after :=
  List.flatMap_append

theorem dropReturn_append_singleton {α : Type} [DecidableEq α] (carriageReturn last : α)
    (line : List α) : dropReturn carriageReturn (line ++ [last]) =
      if last = carriageReturn then line else line ++ [last] := by
  simp [dropReturn]

theorem dropReturn_encoded (line : List Char) :
    dropReturn 13 (encoded line) = encoded (dropReturn '\r' line) := by
  rcases List.eq_nil_or_concat line with rfl | ⟨front, last, rfl⟩
  · rfl
  · obtain ⟨bytes, byte, shape⟩ :=
      (List.eq_nil_or_concat (String.utf8EncodeChar last)).resolve_left String.utf8EncodeChar_ne_nil
    have inside : byte ∈ String.utf8EncodeChar last := by simp [shape]
    have ends : encoded [last] = bytes ++ [byte] := by
      rw [← List.concat_eq_append, ← shape]
      simp [encoded]
    rw [List.concat_eq_append, encoded_append, ends, ← List.append_assoc, dropReturn_append_singleton,
      dropReturn_append_singleton]
    by_cases same : last = '\r'
    · subst same
      have here : bytes ++ [byte] = [] ++ [13] := ends.symm
      obtain ⟨rfl, last⟩ := List.append_inj' here rfl
      rw [if_pos (List.singleton_inj.1 last), if_pos rfl, List.append_nil]
    · have other : byte ≠ 13 := by
        rintro rfl
        exact same (Char.toNat_inj.1 (toNat_of_ascii inside (by decide)))
      rw [if_neg other, if_neg same, encoded_append, ends, List.append_assoc]

theorem splitLines_encoded (before text : List Char) :
    splitLines 10 13 (encoded before.reverse).reverse (encoded text) =
      (splitLines '\n' '\r' before text).map encoded := by
  induction text generalizing before with
  | nil =>
    cases before with
    | nil => rfl
    | cons c before =>
      simp [splitLines, encoded]
  | cons c rest ih =>
    have split : encoded (c :: rest) = String.utf8EncodeChar c ++ encoded rest := List.flatMap_cons
    rw [split, splitLines]
    by_cases same : c = '\n'
    · subst same
      have here : String.utf8EncodeChar '\n' = [10] := by decide
      rw [here, List.singleton_append, splitLines, if_pos BEq.rfl, if_pos BEq.rfl, List.map_cons,
        ← dropReturn_encoded, List.reverse_reverse, ← ih []]
      rfl
    · have clean : 10 ∉ String.utf8EncodeChar c :=
        fun inside => same (Char.toNat_inj.1 (toNat_of_ascii inside (by decide)))
      have more : (String.utf8EncodeChar c).reverse ++ (encoded before.reverse).reverse =
          (encoded (c :: before).reverse).reverse := by
        rw [List.reverse_cons, encoded_append, List.reverse_append]
        simp [encoded]
      rw [splitLines_skip 13 clean, more, ih, if_neg (by simpa using same)]

theorem decodeLines_toUTF8 (text : String) : decodeLines text.toUTF8 = (lines text, true) := by
  have split := splitLines_encoded [] text.toList
  rw [decodeLines, toList_toUTF8]
  change decodeLines.go ((splitLines 10 13 (encoded [].reverse).reverse (encoded text.toList)).map _) = _
  rw [split, List.map_map, lines]
  induction splitLines '\n' '\r' [] text.toList with
  | nil => rfl
  | cons line rest ih =>
    rw [List.map_cons, Function.comp_apply, fromUTF8?_encoded, decodeLines.go, ih]
    rfl

theorem trim_prefix_dropBlanks (text : List Char) : trim text <+: dropBlanks text := by
  rw [trim, dropTrailingBlanks, ← List.reverse_suffix, List.reverse_reverse]
  exact List.dropWhile_suffix _

theorem head?_trim (text : List Char) : ∀ c ∈ (trim text).head?, isBlank c = false := by
  intro c first
  obtain ⟨rest, whole⟩ := trim_prefix_dropBlanks text
  obtain ⟨more, shape⟩ := List.head?_eq_some_iff.1 first
  exact dropBlanks_head text c (more ++ rest) (by rw [← whole, shape]; rfl)

theorem mem_of_mem_trim {c : Char} {text : List Char} (inside : c ∈ trim text) : c ∈ text :=
  (List.dropWhile_suffix _).subset ((trim_prefix_dropBlanks text).subset inside)

theorem trim_append_visible {c : Char} (visible : isBlank c = false) (text : List Char) :
    trim (trim text ++ [c]) = trim text ++ [c] := by
  refine trim_of_edges ?_ (by simpa using visible)
  have front := head?_trim text
  cases shape : trim text with
  | nil => simpa using visible
  | cons d rest =>
    rw [shape] at front
    simpa using front

theorem trim_append_blank {c : Char} (blank : isBlank c = true) (front : List Char) :
    trim (front ++ [c]) = trim front := by
  induction front with
  | nil => simp [trim, dropTrailingBlanks, dropBlanks, blank]
  | cons first front ih =>
    rw [List.cons_append]
    by_cases skipped : isBlank first = true
    · rw [trim, trim, dropBlanks_cons_of_blank skipped, dropBlanks_cons_of_blank skipped]
      exact ih
    · rw [Bool.not_eq_true] at skipped
      rw [trim, trim, dropBlanks_cons_of_not_blank skipped, dropBlanks_cons_of_not_blank skipped,
        ← List.cons_append, dropTrailingBlanks, List.reverse_append, List.reverse_singleton,
        List.singleton_append, dropBlanks_cons_of_blank blank, dropTrailingBlanks]

theorem trim_append_blanks {back : List Char} (blank : ∀ c ∈ back, isBlank c = true)
    (front : List Char) :
    trim (front ++ back) = trim front := by
  induction back generalizing front with
  | nil => rw [List.append_nil]
  | cons c rest ih =>
    rw [List.forall_mem_cons] at blank
    rw [List.append_cons, ih blank.2, trim_append_blank blank.1]

theorem trim_blanks_append {front : List Char} (blank : ∀ c ∈ front, isBlank c = true)
    (text : List Char) :
    trim (front ++ text) = trim text := by
  induction front with
  | nil => rfl
  | cons c rest ih =>
    rw [List.forall_mem_cons] at blank
    rw [List.cons_append, trim, dropBlanks_cons_of_blank blank.1, ← ih blank.2, trim]

theorem trim_dropReturn (line : List Char) : trim (dropReturn '\r' line) = trim line := by
  rcases List.eq_nil_or_concat line with rfl | ⟨front, last, rfl⟩
  · rfl
  · rw [List.concat_eq_append, dropReturn_append_singleton]
    split
    · next same =>
      subst same
      exact (trim_append_blank (by decide) front).symm
    · rfl

theorem filter_map_trim_splitLines {keep : List Char → Bool} (blank : keep [] = false)
    (before text piece : List Char) (others : List (List Char))
    (split : splitAt '\n' text = piece :: others) :
    ((splitLines '\n' '\r' before text).map trim).filter keep =
      (((before.reverse ++ piece) :: others).map trim).filter keep := by
  induction text generalizing before piece others with
  | nil =>
    obtain ⟨rfl, rfl⟩ := List.cons.inj split
    cases before with
    | nil =>
      have none : keep (trim []) = false := blank
      simp [splitLines, none]
    | cons c before => rw [List.append_nil]; rfl
  | cons c rest ih =>
    obtain ⟨piece', others', shape⟩ := List.exists_cons_of_ne_nil (splitAt_ne_nil '\n' rest)
    rw [splitAt, shape] at split
    rw [splitLines]
    by_cases same : c = '\n'
    · rw [if_pos same] at split
      obtain ⟨rfl, rfl⟩ := List.cons.inj split
      have later := ih [] piece' others' shape
      rw [List.reverse_nil, List.nil_append] at later
      rw [if_pos (by simpa using same), List.append_nil, List.map_cons, List.map_cons, trim_dropReturn,
        List.filter_cons, List.filter_cons, later]
    · rw [if_neg same] at split
      obtain ⟨rfl, rfl⟩ := List.cons.inj split
      rw [if_neg (by simpa using same), ih (c :: before) piece' others' shape, List.reverse_cons,
        List.append_assoc, List.singleton_append]

/-- Of the lines that are not blank nothing is lost by cutting at line feeds alone. -/
theorem filter_map_trim_lines {keep : List Char → Bool} (blank : keep [] = false) (text : String) :
    ((lines text).map fun line => trim line.toList).filter keep =
      ((splitAt '\n' text.toList).map trim).filter keep := by
  obtain ⟨piece, others, split⟩ := List.exists_cons_of_ne_nil (splitAt_ne_nil '\n' text.toList)
  rw [split, lines, List.map_map]
  have plain : (fun line : String => trim line.toList) ∘ String.ofList = trim :=
    funext fun line => congrArg trim String.toList_ofList
  rw [plain]
  exact filter_map_trim_splitLines blank [] text.toList piece others split

/-- The text has these lines. Each ends with a line feed, maybe behind a carriage return, but the last one
may end with the text. -/
inductive Lined : List String → String → Prop where
  | nil : Lined [] ""
  | last {line : String} (some : line ≠ "") (clean : '\n' ∉ line.toList) : Lined [line] line
  | feed {line text : String} {rest : List String} (clean : '\n' ∉ line.toList)
    (plain : line.toList.getLast? ≠ some '\r') (more : Lined rest text) :
      Lined (line :: rest) (line ++ "\n" ++ text)
  | returnFeed {line text : String} {rest : List String} (clean : '\n' ∉ line.toList)
    (more : Lined rest text) :
    Lined (line :: rest) (line ++ "\r\n" ++ text)

/-- The text ends where a line ends. -/
def Closed (text : String) : Prop := ∀ c ∈ text.toList.getLast?, c = '\n'

theorem lines_feed {raw : String} (clean : '\n' ∉ raw.toList) (text : String) :
    lines (raw ++ "\n" ++ text) = String.ofList (dropReturn '\r' raw.toList) :: lines text := by
  have letters : (raw ++ "\n" ++ text).toList = raw.toList ++ '\n' :: text.toList := by simp
  rw [lines, letters, splitLines_skip '\r' clean, List.append_nil, splitLines, if_pos BEq.rfl,
    List.reverse_reverse, List.map_cons, lines]

theorem lines_last {line : String} (some : line ≠ "") (clean : '\n' ∉ line.toList) :
    lines line = [line] := by
  have letters : line.toList.reverse ≠ [] := by simpa using some
  have read := splitLines_skip '\r' clean [] []
  rw [List.append_nil, List.append_nil, splitLines, if_neg (by simpa using letters),
    List.reverse_reverse] at read
  rw [lines, read, List.map_singleton, String.ofList_toList]

theorem Lined.lines_eq {given : List String} {text : String} (lined : Lined given text) :
    lines text = given := by
  induction lined with
  | nil => rfl
  | last some clean => exact lines_last some clean
  | @feed line text rest clean plain _ ih =>
    rw [lines_feed clean, ih, dropReturn, if_neg (by simpa using plain), String.ofList_toList]
  | @returnFeed line text rest clean _ ih =>
    have raw : line ++ "\r\n" ++ text = (line ++ "\r") ++ "\n" ++ text := by simp [String.ext_iff]
    have letters : (line ++ "\r").toList = line.toList ++ ['\r'] := by simp
    rw [raw, lines_feed (by simpa using clean), ih, letters, dropReturn_append_singleton, if_pos rfl,
      String.ofList_toList]

theorem lined_feed (raw : String) (clean : '\n' ∉ raw.toList) {rest : List String} {text : String}
    (more : Lined rest text) : ∃ line, Lined (line :: rest) (raw ++ "\n" ++ text) := by
  rcases List.eq_nil_or_concat raw.toList with empty | ⟨front, last, shape⟩
  · exact ⟨raw, .feed clean (by simp [empty]) more⟩
  · rw [List.concat_eq_append] at shape
    by_cases returned : last = '\r'
    · subst returned
      have whole : raw ++ "\n" ++ text = String.ofList front ++ "\r\n" ++ text := by
        simp [String.ext_iff, shape]
      rw [whole]
      exact ⟨_, .returnFeed
        (by rw [String.toList_ofList]; exact fun inside => clean (by simp [shape, inside])) more⟩
    · exact ⟨raw, .feed clean (by simpa [shape] using returned) more⟩

/-- Every text has lines. -/
theorem exists_lined (text : String) : ∃ given, Lined given text := by
  induction size : text.length using Nat.strongRecOn generalizing text with
  | ind count ih =>
    by_cases clean : '\n' ∈ text.toList
    · obtain ⟨front, back, shape, before⟩ := List.eq_append_cons_of_mem clean
      have whole : text = String.ofList front ++ "\n" ++ String.ofList back := by
        simp [String.ext_iff, shape]
      have shorter : (String.ofList back).length < count := by
        rw [← size, ← String.length_toList, ← String.length_toList, shape, String.toList_ofList,
          List.length_append, List.length_cons]
        omega
      obtain ⟨rest, more⟩ := ih _ shorter _ rfl
      obtain ⟨line, lined⟩ := lined_feed (String.ofList front) (by simpa using before) more
      exact ⟨line :: rest, whole ▸ lined⟩
    · by_cases empty : text = ""
      · exact ⟨[], empty ▸ .nil⟩
      · exact ⟨[text], .last empty clean⟩

theorem lined_iff {given : List String} {text : String} : Lined given text ↔ lines text = given := by
  constructor
  · exact Lined.lines_eq
  · rintro rfl
    obtain ⟨given, lined⟩ := exists_lined text
    rwa [lined.lines_eq]

theorem Closed.of_append {front back : String} (closed : Closed (front ++ back)) : Closed back := by
  intro c last
  apply closed c
  rw [String.toList_append, List.getLast?_append, Option.mem_def.1 last]
  rfl

/-- Behind a text that ends where a line ends the lines of another one follow. -/
theorem Lined.append {given more : List String} {first second : String} (lined : Lined given first)
    (closed : Closed first) (follows : Lined more second) : Lined (given ++ more) (first ++ second) := by
  induction lined with
  | nil => simpa using follows
  | @last line some clean =>
    have ends := List.getLast?_eq_some_getLast (show line.toList ≠ [] by simpa using some)
    exact absurd (closed _ ends ▸ List.getLast_mem _) clean
  | @feed line text rest clean plain _ ih =>
    rw [String.append_assoc]
    exact .feed clean plain (ih closed.of_append)
  | @returnFeed line text rest clean _ ih =>
    rw [String.append_assoc]
    exact .returnFeed clean (ih closed.of_append)

end EventRouting.Text
