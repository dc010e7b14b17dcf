import EventRouting.Proofs.Network.Netblock
import EventRouting.Proofs.RuleText.Keys
import EventRouting.Proofs.Text.Lines

set_option autoImplicit false

namespace EventRouting

open Text RuleText

namespace IpRange

/-- A block fixes no more bits than the longest address has. -/
theorem bits_le_of_ofBlock {address : IpAddress} {bits : Nat} {range : IpRange}
    (valid : ofBlock address bits = .ok range) : bits ≤ 128 := by
  unfold ofBlock at valid
  split at valid
  · next wide =>
    have width : address.family.width ≤ 128 := by cases address.family <;> decide
    exact wide.trans width
  · contradiction

theorem mark_notMem_blanks {blanks : List Char} (blank : Blanks blanks) :
    '-' ∉ blanks ∧ '/' ∉ blanks := by
  constructor
  · intro inside
    have hyphen := blank '-' inside
    contradiction
  · intro inside
    have slash := blank '/' inside
    contradiction

/-- A spelling with white space inside is cut where it was put together. -/
theorem read_of_ipText {text : List Char} {range : IpRange} (spelled : IpText text range) :
    read text = .ok range := by
  cases spelled with
  | address known =>
    obtain ⟨noHyphen, noSlash⟩ := mark_notMem_of_read? known
    rw [read, if_neg noHyphen, if_neg noSlash, readSingle, readAddress_of_read? known]
    rfl
  | @block token before after digits address _ known front back some short decimal valid =>
    obtain ⟨noHyphen, noSlash⟩ := mark_notMem_of_read? known
    obtain ⟨noHyphenFront, noSlashFront⟩ := mark_notMem_blanks front
    obtain ⟨noHyphenBack, -⟩ := mark_notMem_blanks back
    have cut : splitOnce '/' (token ++ before ++ '/' :: after ++ digits) =
        .some (token ++ before, after ++ digits) := by
      rw [List.append_assoc (token ++ before), List.cons_append]
      exact splitOnce_append _ (by simp [noSlash, noSlashFront])
    have first : readAddress (token ++ before) = .ok address := by
      rw [readAddress_congr (trim_append_blanks front token), readAddress_of_read? known]
    have counted : readBits (after ++ digits) = .ok (IpAddress.decimalValue digits) := by
      have few := bits_le_of_ofBlock valid
      rw [readBits_congr (trim_blanks_append back digits), readBits_digits some decimal (by omega)]
    rw [read, if_neg (by simp [noHyphen, noHyphenFront, noHyphenBack, hyphen_notMem_digits decimal]),
      if_pos (by simp), readBlock, cut]
    dsimp only
    rw [counted, first]
    exact valid
  | @ends token before after other one last _ known front back also valid =>
    obtain ⟨noHyphen, -⟩ := mark_notMem_of_read? known
    obtain ⟨noHyphenFront, -⟩ := mark_notMem_blanks front
    have cut : splitOnce '-' (token ++ before ++ '-' :: after ++ other) =
        .some (token ++ before, after ++ other) := by
      rw [List.append_assoc (token ++ before), List.cons_append]
      exact splitOnce_append _ (by simp [noHyphen, noHyphenFront])
    have first : readAddress (token ++ before) = .ok one := by
      rw [readAddress_congr (trim_append_blanks front token), readAddress_of_read? known]
    have second : readAddress (after ++ other) = .ok last := by
      rw [readAddress_congr (trim_blanks_append back other), readAddress_of_read? also]
    rw [read, if_pos (by simp), readEnds, cut]
    dsimp only
    rw [first, second]
    exact valid

end IpRange

namespace RuleText

variable {text key : String} {range : IpRange}

theorem ipText_of_whole (scanned : scanIp text.toList = some (range, [])) : IpText text.toList range := by
  obtain ⟨token, spelled, -, same⟩ := ipText_of_scanIp scanned
  rwa [same, List.append_nil]

theorem parse_addresses (spelled : IpText text.toList range) : parse text = .ok (.fuzzy (.ip range)) :=
  ReadsOperand.parse (LeafText.network (.ip spelled)).readsOperand

theorem not_spells_no {word : List Char} (free : isKeyword word = false) : ¬Spells "no" word := by
  intro spells
  rw [isKeyword, spells] at free
  contradiction

theorem parse_inside (keyed : BareToken key.toList) (free : isKeyword key.toList = false)
    (spelled : IpText text.toList range) :
    parse (key ++ " in " ++ text) = .ok (.test .matching (some key) (some (.ip range))) := by
  refine ReadsOperand.parse ?_
  simpa using keyed.readsOperand_inside (not_spells_no free) (.ip spelled)

end RuleText

namespace Workspace

variable {work : Workspace}

/-- What the scanner of addresses takes as a whole is read as the same range, and alone it is a rule for
any value in that range. Behind a key and `in` it is the rule that is built for the block under that key,
whichever comes first. -/
theorem scanned_blocks_are_read_alike (run : Run start work) {text : String} {range : IpRange}
    (scanned : scanIp text.toList = some (range, [])) :
    IpRange.read text.toList = .ok range ∧ parse text = .ok (.fuzzy (.ip range)) ∧
      ∀ key : String, BareToken key.toList → isKeyword key.toList = false →
        ∃ parsed, parse (key ++ " in " ++ text) = .ok parsed ∧
          (Netblock.build text none [key] (parsed.build work.store).2).1 =
            .ok (parsed.build work.store).1 ∧
          ∃ rule, (Netblock.build text none [key] work.store).1 = .ok rule ∧
            (parsed.build (Netblock.build text none [key] work.store).2).1 = rule := by
  have spelled := ipText_of_whole scanned
  have known := IpRange.read_of_ipText spelled
  have built (key : String) := Netblock.build_of_range ((Netblock.range_none text).trans known) [key]
  refine ⟨known, parse_addresses spelled,
    fun key keyed free => ⟨_, parse_inside keyed free spelled, ?_, ?_⟩⟩
  · rw [built]
    exact congrArg Except.ok (run.build_eq (Netblock.ofRange_single_agrees range key).symm)
  · rw [built]
    exact ⟨_, rfl, run.build_eq (Netblock.ofRange_single_agrees range key)⟩

/-- White space of any kind may stand around the slash, and zeros before the count. -/
theorem scanned_blocks_are_read_alike_spaced :
    scanIp "10.1.2.3\u2003/ 024".toList =
      some (⟨.v4, 0x0A010200, 0x0A0102FF, by decide, by decide⟩, []) ∧
      ∃ parsed, parse "src in 10.1.2.3\u2003/ 024" = .ok parsed ∧
        (Netblock.build "10.1.2.3\u2003/ 024" none ["src"] (parsed.build start.store).2).1 =
          .ok (parsed.build start.store).1 := by
  have scanned : scanIp "10.1.2.3\u2003/ 024".toList =
      some (⟨.v4, 0x0A010200, 0x0A0102FF, by decide, by decide⟩, []) := by decide +kernel
  have whole : "src" ++ " in " ++ "10.1.2.3\u2003/ 024" = "src in 10.1.2.3\u2003/ 024" := by decide +kernel
  obtain ⟨-, -, keys⟩ := scanned_blocks_are_read_alike .refl scanned
  obtain ⟨parsed, parses, same, -⟩ :=
    keys "src" ⟨by simp, List.all_eq_true.1 (by decide)⟩ (by decide)
  rw [whole] at parses
  exact ⟨scanned, parsed, parses, same⟩

end Workspace

end EventRouting
