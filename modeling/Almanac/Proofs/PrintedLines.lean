import Almanac.Command.Basic
import Almanac.Proofs.Digits
import Almanac.Proofs.JsonStrings

namespace Almanac

/-- A text of characters of ASCII that are printed, without any that a terminal obeys. -/
def Printed (text : List Char) : Prop :=
  ∀ c ∈ text, 0x20 ≤ c.toNat ∧ c.toNat < 0x7F

instance (text : List Char) : Decidable (Printed text) :=
  List.decidableBAll _ text

namespace Printed

variable {text rest : List Char}

theorem cons {c : Char} (first : 0x20 ≤ c.toNat ∧ c.toNat < 0x7F) (h : Printed rest) :
    Printed (c :: rest) :=
  List.forall_mem_cons.mpr ⟨first, h⟩

theorem append (h : Printed text) (h' : Printed rest) : Printed (text ++ rest) :=
  List.forall_mem_append.mpr ⟨h, h'⟩

end Printed

/-- Nothing is taken out of a text without escape characters where control sequences are not
wanted. -/
theorem plainText_eq_self {text : String} (h : '\x1b' ∉ text.toList) : plainText text = text := by
  unfold plainText
  rw [withoutSequences_eq_self h, String.ofList_toList]

theorem Printed.plain_printed {text : List Char} (h : Printed text) :
    (Outcome.printed (String.ofList text)).plain = .printed (String.ofList text) := by
  have output : '\x1b' ∉ (String.ofList text ++ "\n").toList := by
    rw [String.toList_append, String.toList_ofList, List.mem_append, not_or]
    refine ⟨fun mem => ?_, by decide⟩
    exact absurd (h _ mem).1 (by decide)
  unfold Outcome.printed Outcome.plain
  dsimp only
  rw [plainText_eq_self output, plainText_eq_self (by decide)]

theorem printed_hexadecimal {n : Nat} (h : n < 0x10000) : Printed (hexadecimal 4 n) := by
  have digit : ∀ k < 16, 0x20 ≤ k.digitChar.toNat ∧ k.digitChar.toNat < 0x7F := by decide
  rw [hexadecimal_four h]
  refine .cons (digit _ ?_) (.cons (digit _ ?_) (.cons (digit _ ?_) (.cons (digit _ ?_) nofun)))
  all_goals omega

theorem printed_unitText (u : UInt16) : Printed (unitText u) := by
  unfold unitText
  dsimp only
  split
  next special =>
    rcases special with quote | backslash
    · rw [quote]
      decide
    · rw [backslash]
      decide
  -- The escapes of one letter are the same for every code unit that has them.
  repeat (split; · decide)
  split
  next ascii =>
    have code : (Char.ofNat u.toNat).toNat = u.toNat :=
      toNat_ofNat_char (by simp only [Nat.isValidChar]; omega)
    exact .cons (by rwa [code]) nofun
  next => exact .cons (by decide) (.cons (by decide) (printed_hexadecimal u.toNat_lt))

theorem printed_jsonString (t : Text) : Printed (jsonString t) := by
  have units : Printed (t.units.flatMap unitText) := by
    intro c mem
    obtain ⟨u, -, written⟩ := List.mem_flatMap.mp mem
    exact printed_unitText u c written
  exact (units.cons (by decide)).append (by decide)

theorem printed_decimal (n : Int) : Printed (decimal n) := by
  have digits : Printed (Nat.toDigits 10 n.natAbs) := by
    intro c mem
    have digit := isDigit_iff.mp (isDigit_of_mem_toDigits mem)
    omega
  unfold decimal
  split
  · exact digits.cons (by decide)
  · exact digits

namespace Json

variable {members : List (String × Json)}

theorem printed_membersLine (each : ∀ member ∈ members, Printed member.2.line) :
    Printed (membersLine members) := by
  induction members with
  | nil => exact nofun
  | cons member others ih =>
    obtain ⟨name, value⟩ := member
    have first : Printed (jsonString name ++ ':' :: ' ' :: value.line) :=
      (printed_jsonString name).append (((each _ List.mem_cons_self).cons (by decide)).cons (by decide))
    cases others with
    | nil => exact first
    | cons next others =>
      have rest := ih fun member mem => each member (List.mem_cons_of_mem _ mem)
      exact first.append ((rest.cons (by decide)).cons (by decide))

theorem printed_object_line (each : ∀ member ∈ members, Printed member.2.line) :
    Printed (object members).line := by
  unfold line
  exact ((printed_membersLine each).cons (by decide)).append (by decide)

end Json

end Almanac
